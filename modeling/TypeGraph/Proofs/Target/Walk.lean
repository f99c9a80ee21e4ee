import Mathlib.Order.Interval.Set.Nat
import TypeGraph.Proofs.Target.LinkedTree

/-!
# Walking a linked tree

With links that agree with paths, following a path leads to its module (`find?_eq_some_iff`), and the walk
from the top comes to an end and lists every module once, in the order of their paths (`sorted_spec`). The
walk keeps two things of its stack: the paths on it are apart and in order, so whatever is below one of
them comes before whatever is below the next; and each turn takes one module from those that are still to
come. All of this holds after any operations on an empty tree (`coherent_after`).
-/

namespace TypeGraph.LinkedTree

variable {t t' : LinkedTree} {place : Option Nat} {p q : ModulePath} {s : String}
  {id n x : Nat} {stack rest ids : List Nat}

/-! ## Finding modules -/

theorem follow_eq_some_iff (h : t.Linked) (rest : List String) :
    ∀ {place : Option Nat} {p : ModulePath} (s : String), t.pathAt? place = some p →
      (t.follow place s rest = some id ↔ t.path? id = some (p ++ s :: rest)) := by
  induction rest with
  | nil =>
      intro place p s hplace
      exact h.below place p hplace s id
  | cons next rest ih =>
      intro place p s hplace
      rw [follow, Option.bind_eq_bind, Option.bind_eq_some_iff]
      constructor
      · rintro ⟨n, hlink, hrest⟩
        have hn : t.pathAt? (some n) = some (p ++ [s]) := (h.below place p hplace s n).mp hlink
        simpa using (ih next hn).mp hrest
      · intro hid
        -- the module one step down is there, since the path of another one begins with its path
        have hstep : p ++ [s] ∈ t.paths := by
          refine h.mem_of_prefix (mem_paths_iff.mpr ⟨id, hid⟩) (by simp) ⟨next :: rest, by simp⟩
        obtain ⟨n, hn⟩ := mem_paths_iff.mp hstep
        have hplace' : t.pathAt? (some n) = some (p ++ [s]) := hn
        exact ⟨n, (h.below place p hplace s n).mpr hn, (ih next hplace').mpr (by simpa using hid)⟩

/-- A path is found just when some module has it. -/
theorem find?_eq_some_iff (h : t.Linked) : t.find? p = some id ↔ t.path? id = some p := by
  cases p with
  | nil =>
      constructor
      · intro hnone
        exact absurd hnone (by simp [find?])
      · intro hid
        exact absurd rfl (h.path_ne_nil hid)
  | cons s rest =>
      have htop : t.pathAt? none = some [] := rfl
      exact follow_eq_some_iff h rest s htop

/-! ## The stack of a walk -/

/-- A module is on a stack or below one of the modules on it. -/
def Under (t : LinkedTree) (stack : List Nat) (x : Nat) : Prop :=
  ∃ top ∈ stack, ∃ p q, t.path? top = some p ∧ t.path? x = some q ∧ p <+: q

/-- The modules on a stack are known, and their paths are apart and in order. -/
structure Ready (t : LinkedTree) (stack : List Nat) : Prop where
  known : ∀ id ∈ stack, ∃ p, t.path? id = some p
  apart : stack.Pairwise fun a b => ∀ p q, t.path? a = some p → t.path? b = some q → p.Apart q

/-- Numbers of modules in strictly ascending order of their paths. -/
def Ascending (t : LinkedTree) (ids : List Nat) : Prop :=
  ids.Pairwise fun a b => ∀ p q, t.path? a = some p → t.path? b = some q → p < q

theorem mem_below_iff (h : t.Linked) (hplace : t.pathAt? place = some p) :
    id ∈ (t.below place).values ↔ ∃ s, t.path? id = some (p ++ [s]) := by
  rw [NameMap.mem_values_iff]
  refine exists_congr fun s => ?_
  rw [← NameMap.get?_eq_some_iff, h.below place p hplace]

/-- The modules below a place are ready for a walk. -/
theorem Linked.ready_below (h : t.Linked) (hplace : t.pathAt? place = some p) :
    t.Ready (t.below place).values where
  known := by
    intro id hid
    obtain ⟨s, hs⟩ := (mem_below_iff h hplace).mp hid
    exact ⟨_, hs⟩
  apart := by
    have hpath : ∀ e ∈ (t.below place).entries, t.path? e.2 = some (p ++ [e.1]) := fun e he =>
      (h.below place p hplace e.1 e.2).mp (NameMap.get?_eq_some_iff.mpr he)
    refine List.pairwise_map.mpr ((List.pairwise_map.mp (t.below place).ascending).imp_of_mem ?_)
    intro a b ha hb hlt pa pb hpa hpb
    obtain rfl := Option.some.inj ((hpath a ha).symm.trans hpa)
    obtain rfl := Option.some.inj ((hpath b hb).symm.trans hpb)
    exact ModulePath.apart_append p hlt

theorem Ready.under_self (hready : t.Ready (id :: rest)) : t.Under (id :: rest) id := by
  obtain ⟨p, hp⟩ := hready.known id List.mem_cons_self
  exact ⟨id, List.mem_cons_self, p, p, hp, hp, List.prefix_rfl⟩

/-- Taking a module from the stack and putting those below it in its place leaves the stack ready. -/
theorem Ready.turn (h : t.Linked) (hready : t.Ready (id :: rest)) :
    t.Ready ((t.below (some id)).values ++ rest) := by
  obtain ⟨p, hp⟩ := hready.known id List.mem_cons_self
  have hplace : t.pathAt? (some id) = some p := hp
  obtain ⟨hid, hrest⟩ := List.pairwise_cons.mp hready.apart
  have hbelow := h.ready_below hplace
  constructor
  · intro n hn
    rcases List.mem_append.mp hn with hchild | hold
    · exact hbelow.known n hchild
    · exact hready.known n (List.mem_cons_of_mem _ hold)
  · refine List.pairwise_append.mpr ⟨hbelow.apart, hrest, ?_⟩
    intro child hchild b hb pc pb hpc hpb
    obtain ⟨s, hs⟩ := (mem_below_iff h hplace).mp hchild
    obtain rfl := Option.some.inj (hs.symm.trans hpc)
    exact (hid b hb p pb hp hpb).append s

/-- What comes after a module on top of the stack has a greater path. -/
theorem Ready.lt_of_under (h : t.Linked) (hready : t.Ready (id :: rest))
    (hp : t.path? id = some p) (hx : t.Under ((t.below (some id)).values ++ rest) x)
    (hq : t.path? x = some q) : p < q := by
  have hplace : t.pathAt? (some id) = some p := hp
  obtain ⟨top, htop, r, q', hr, hq', hbegins⟩ := hx
  obtain rfl := Option.some.inj (hq.symm.trans hq')
  rcases List.mem_append.mp htop with hchild | hold
  · obtain ⟨s, hs⟩ := (mem_below_iff h hplace).mp hchild
    obtain rfl := Option.some.inj (hs.symm.trans hr)
    exact lt_of_lt_of_le (ModulePath.lt_append p s []) (ModulePath.le_of_prefix hbegins)
  · have hapart := (List.pairwise_cons.mp hready.apart).1 top hold p r hp hr
    exact hapart.lt_of_prefix List.prefix_rfl hbegins

/-- A turn takes one module from those that are still to come. -/
theorem under_turn_iff (h : t.Linked) (hready : t.Ready (id :: rest)) :
    t.Under ((t.below (some id)).values ++ rest) x ↔ t.Under (id :: rest) x ∧ x ≠ id := by
  obtain ⟨p, hp⟩ := hready.known id List.mem_cons_self
  have hplace : t.pathAt? (some id) = some p := hp
  constructor
  · intro hx
    refine ⟨?_, ?_⟩
    · obtain ⟨top, htop, r, q, hr, hq, hbegins⟩ := hx
      rcases List.mem_append.mp htop with hchild | hold
      · obtain ⟨s, hs⟩ := (mem_below_iff h hplace).mp hchild
        obtain rfl := Option.some.inj (hs.symm.trans hr)
        exact ⟨id, List.mem_cons_self, p, q, hp, hq, (List.prefix_append p [s]).trans hbegins⟩
      · exact ⟨top, List.mem_cons_of_mem _ hold, r, q, hr, hq, hbegins⟩
    · rintro rfl
      exact lt_irrefl p (hready.lt_of_under h hp hx hp)
  · rintro ⟨⟨top, htop, r, q, hr, hq, hbegins⟩, hne⟩
    rcases List.mem_cons.mp htop with rfl | hold
    · obtain rfl := Option.some.inj (hp.symm.trans hr)
      obtain ⟨more, rfl⟩ := hbegins
      cases more with
      | nil => exact absurd (h.id_unique (by simpa using hq) hp) hne
      | cons s more =>
          -- it is below the module one step further down
          have hmem : p ++ [s] ∈ t.paths :=
            h.mem_of_prefix (mem_paths_iff.mpr ⟨x, hq⟩) (by simp) ⟨more, by simp⟩
          obtain ⟨child, hchild⟩ := mem_paths_iff.mp hmem
          refine ⟨child, List.mem_append_left _ ((mem_below_iff h hplace).mpr ⟨s, hchild⟩), _, _,
            hchild, hq, ⟨more, by simp⟩⟩
    · exact ⟨top, List.mem_append_right _ hold, r, q, hr, hq, hbegins⟩

theorem under_subset (t : LinkedTree) (stack : List Nat) : {x | t.Under stack x} ⊆ Set.Iio t.size := by
  rintro x ⟨_, _, _, _, _, hq, _⟩
  exact lt_size_of_path? hq

theorem finite_under (t : LinkedTree) (stack : List Nat) : {x | t.Under stack x}.Finite :=
  (Set.finite_Iio t.size).subset (under_subset t stack)

/-- No more modules are under a stack than there are. -/
theorem ncard_under_le (t : LinkedTree) (stack : List Nat) : {x | t.Under stack x}.ncard ≤ t.size := by
  have hle := Set.ncard_le_ncard (under_subset t stack) (Set.finite_Iio t.size)
  rwa [Set.ncard_Iio_nat] at hle

/-- Turns that a walk leaves over do not show in what it lists. -/
theorem walk_of_le {turns more : Nat} (hle : turns ≤ more) (hwalk : t.walk turns stack = some ids) :
    t.walk more stack = some ids := by
  induction turns generalizing more stack ids with
  | zero =>
      cases stack with
      | nil => rwa [walk] at hwalk ⊢
      | cons id rest => exact absurd hwalk (by simp [walk])
  | succ turns ih =>
      cases stack with
      | nil => rwa [walk] at hwalk ⊢
      | cons id rest =>
          obtain ⟨more, rfl⟩ : ∃ n, more = n + 1 := ⟨more - 1, by omega⟩
          rw [walk, Option.map_eq_some_iff] at hwalk ⊢
          obtain ⟨later, hlater, hids⟩ := hwalk
          exact ⟨later, ih (by omega) hlater, hids⟩

/-- A walk with a turn for every module that is under its stack lists these modules in the order of their
paths. -/
theorem walk_spec (h : t.Linked) (hready : t.Ready stack) {turns : Nat}
    (hturns : {x | t.Under stack x}.ncard ≤ turns) :
    ∃ ids, t.walk turns stack = some ids ∧ (∀ x, x ∈ ids ↔ t.Under stack x) ∧ t.Ascending ids := by
  -- induction on the turns: each takes one module from those that are still to come
  induction turns generalizing stack with
  | zero =>
      cases stack with
      | nil => exact ⟨[], by rw [walk], fun x => by simp [Under], List.Pairwise.nil⟩
      | cons id rest =>
          have hempty := (Set.ncard_eq_zero (finite_under t _)).mp (Nat.le_zero.mp hturns)
          have hself : id ∈ {x | t.Under (id :: rest) x} := hready.under_self
          rw [hempty] at hself
          exact absurd hself (Set.notMem_empty id)
  | succ turns ih =>
      cases stack with
      | nil => exact ⟨[], by rw [walk], fun x => by simp [Under], List.Pairwise.nil⟩
      | cons id rest =>
          obtain ⟨p, hp⟩ := hready.known id List.mem_cons_self
          have hself := hready.under_self
          have hfewer : {x | t.Under ((t.below (some id)).values ++ rest) x}.ncard ≤ turns := by
            refine Nat.le_of_lt_succ (lt_of_lt_of_le ?_ hturns)
            refine Set.ncard_lt_ncard ?_ (finite_under t _)
            refine (Set.ssubset_iff_of_subset fun x hx => ((under_turn_iff h hready).mp hx).1).mpr ?_
            exact ⟨id, hself, fun hid => ((under_turn_iff h hready).mp hid).2 rfl⟩
          obtain ⟨later, hwalk, hmem, hascending⟩ := ih (hready.turn h) hfewer
          refine ⟨id :: later, by rw [walk, hwalk, Option.map_some], fun x => ?_, ?_⟩
          · rw [List.mem_cons, hmem, under_turn_iff h hready]
            by_cases hx : x = id
            · simp [hx, hself]
            · simp [hx]
          · refine List.pairwise_cons.mpr ⟨fun x hx p' q hp' hq => ?_, hascending⟩
            obtain rfl := Option.some.inj (hp.symm.trans hp')
            exact hready.lt_of_under h hp ((hmem x).mp hx) hq

/-! ## All modules -/

theorem under_roots_iff (h : t.Linked) : t.Under t.roots.values x ↔ x < t.size := by
  have htop : t.pathAt? none = some [] := rfl
  constructor
  · exact fun hx => under_subset t _ hx
  · intro hlt
    obtain ⟨q, hq⟩ := exists_path? hlt
    cases q with
    | nil => exact absurd rfl (h.path_ne_nil hq)
    | cons s more =>
        have hmem : [s] ∈ t.paths :=
          h.mem_of_prefix (mem_paths_iff.mpr ⟨x, hq⟩) (by simp) ⟨more, rfl⟩
        obtain ⟨top, hpath⟩ := mem_paths_iff.mp hmem
        exact ⟨top, (mem_below_iff h htop).mpr ⟨s, hpath⟩, [s], s :: more, hpath, hq, ⟨more, rfl⟩⟩

/-- The walk from the top lists the modules in the order of their paths. -/
theorem sorted_spec (h : t.Linked) :
    ∃ ids, t.sorted = some ids ∧ (∀ x, x ∈ ids ↔ x < t.size) ∧ t.Ascending ids := by
  have htop : t.pathAt? none = some [] := rfl
  obtain ⟨ids, hwalk, hmem, hascending⟩ :=
    walk_spec h (h.ready_below htop) (ncard_under_le t t.roots.values)
  exact ⟨ids, hwalk, fun x => (hmem x).trans (under_roots_iff h), hascending⟩

theorem Ascending.pairwise_paths (hascending : t.Ascending ids) :
    (ids.filterMap t.path?).Pairwise (· < ·) := by
  rw [List.pairwise_filterMap]
  exact hascending.imp fun hlt p hp q hq => hlt p q hp hq

theorem mem_filterMap_path?_iff (hmem : ∀ x, x ∈ ids ↔ x < t.size) :
    p ∈ ids.filterMap t.path? ↔ p ∈ t.paths := by
  rw [List.mem_filterMap, mem_paths_iff]
  constructor
  · rintro ⟨id, _, hid⟩
    exact ⟨id, hid⟩
  · rintro ⟨id, hid⟩
    exact ⟨id, (hmem id).mpr (lt_size_of_path? hid), hid⟩

/-- The order in which modules were created does not show in the list of their paths. -/
theorem sortedPaths_congr (h : t.Linked) (h' : t'.Linked) (hpaths : ∀ p, p ∈ t.paths ↔ p ∈ t'.paths) :
    t.sortedPaths = t'.sortedPaths := by
  obtain ⟨ids, hsorted, hmem, hascending⟩ := sorted_spec h
  obtain ⟨ids', hsorted', hmem', hascending'⟩ := sorted_spec h'
  have hsame : ids.filterMap t.path? = ids'.filterMap t'.path? := by
    refine hascending.pairwise_paths.eq_of_mem_iff hascending'.pairwise_paths fun p => ?_
    rw [mem_filterMap_path?_iff hmem, mem_filterMap_path?_iff hmem', hpaths]
  rw [sortedPaths, sortedPaths, hsorted, hsorted', Option.map_some, Option.map_some, hsame]

/-! ## The same tree without links -/

theorem getElem?_tree (t : LinkedTree) (id : Nat) :
    t.tree.modules[id]? = t.modules[id]?.map LinkedModule.bare := by
  rw [tree, List.getElem?_map]

theorem path_of_getElem?_tree {m : Module} (hm : t.tree.modules[id]? = some m) :
    t.path? id = some m.path := by
  rw [getElem?_tree] at hm
  obtain ⟨o, ho, rfl⟩ := Option.map_eq_some_iff.mp hm
  exact path?_eq_some_iff.mpr ⟨o, ho, rfl⟩

/-- Modules that are listed by their numbers in the order of their paths are those of the tree without
links, sorted. -/
theorem eq_mergeSort_of_ascending (h : t.Linked) (hascending : t.Ascending ids) {ms : List Module}
    (hms : ms.Sublist t.tree.modules)
    (hmem : ∀ id m, t.tree.modules[id]? = some m → (id ∈ ids ↔ m ∈ ms)) :
    ids.filterMap (t.tree.modules[·]?) = ms.mergeSort fun a b => !b.path.before a.path := by
  have hn : (ms.map (·.path)).Nodup := h.nodup_tree.sublist (hms.map _)
  refine ModuleTree.eq_mergeSort_of_ascending hn ?_ fun m => ?_
  · rw [List.pairwise_filterMap]
    refine hascending.imp fun hlt a ha b hb => ?_
    exact hlt a.path b.path (path_of_getElem?_tree ha) (path_of_getElem?_tree hb)
  · rw [List.mem_filterMap]
    constructor
    · rintro ⟨id, hid, hm⟩
      exact (hmem id m hm).mp hid
    · intro hm
      obtain ⟨id, hget⟩ := List.mem_iff_getElem?.mp (hms.subset hm)
      exact ⟨id, (hmem id m hget).mpr hm, hget⟩

/-- A tree without links tells the same by paths as a linked tree does by numbers. -/
structure Mirrors (t : LinkedTree) (u : ModuleTree) : Prop where
  modules : t.modules.map LinkedModule.bare = u.modules
  parent : ∀ m ∈ t.modules, m.parent.bind t.path? = m.path.parent?
  find? : ∀ p, (t.find? p).bind (u.modules[·]?) = u.find? p
  children : ∀ place p, t.pathAt? place = some p →
    (t.below place).values.filterMap (u.modules[·]?) = u.children p
  sorted : t.sorted.map (·.filterMap (u.modules[·]?)) = some u.sorted

theorem Linked.mirrors (h : t.Linked) : t.Mirrors t.tree where
  modules := rfl
  parent := by
    intro m hm
    have hparent := h.parent m hm
    have hne := h.ne_nil_of_mem hm
    cases habove : m.parent with
    | none =>
        rw [habove] at hparent
        have hlength : m.path.dropLast.length = 0 := by
          rw [← Option.some.inj hparent]
          rfl
        rw [List.length_dropLast] at hlength
        rw [ModulePath.parent?, if_pos (by omega)]
        rfl
    | some id =>
        rw [habove] at hparent
        have hid : t.path? id = some m.path.dropLast := hparent
        have hlength : m.path.dropLast.length ≠ 0 := by
          rw [ne_eq, List.length_eq_zero_iff]
          exact h.path_ne_nil hid
        rw [List.length_dropLast] at hlength
        rw [ModulePath.parent?, if_neg (by omega)]
        exact hid
  find? := by
    intro p
    cases hfind : t.find? p with
    | none =>
        cases hother : t.tree.find? p with
        | none => rfl
        | some m =>
            obtain ⟨hm, rfl⟩ := ModuleTree.mem_of_find? hother
            obtain ⟨id, hid⟩ := List.mem_iff_getElem?.mp hm
            have hsome := (find?_eq_some_iff h).mpr (path_of_getElem?_tree hid)
            exact absurd (hfind.symm.trans hsome) (by simp)
    | some id =>
        obtain ⟨m, hm, rfl⟩ := path?_eq_some_iff.mp ((find?_eq_some_iff h).mp hfind)
        have hbare : t.tree.modules[id]? = some m.bare := by rw [getElem?_tree, hm, Option.map_some]
        rw [Option.bind_some, hbare]
        exact (ModuleTree.find?_of_mem h.nodup_tree (List.mem_of_getElem? hbare)).symm
  children := by
    intro place p hplace
    refine eq_mergeSort_of_ascending h ((h.ready_below hplace).apart.imp ?_) List.filter_sublist ?_
    · intro a b hapart pa pb hpa hpb
      exact (hapart pa pb hpa hpb).1
    · intro id m hm
      rw [mem_below_iff h hplace, path_of_getElem?_tree hm, List.mem_filter, Bool.and_eq_true,
        List.isPrefixOf_iff_prefix, beq_iff_eq]
      constructor
      · rintro ⟨s, hs⟩
        rw [Option.some.inj hs]
        exact ⟨List.mem_of_getElem? hm, by simp, List.prefix_append p [s]⟩
      · rintro ⟨_, hlength, more, hmore⟩
        obtain ⟨s, rfl⟩ : ∃ s, more = [s] := by
          rw [← List.length_eq_one_iff]
          rw [← hmore, List.length_append] at hlength
          omega
        exact ⟨s, by rw [hmore]⟩
  sorted := by
    obtain ⟨ids, hsorted, hmem, hascending⟩ := sorted_spec h
    rw [hsorted, Option.map_some, ModuleTree.sorted]
    congr 1
    refine eq_mergeSort_of_ascending h hascending (List.Sublist.refl _) fun id m hm => ?_
    rw [hmem]
    exact ⟨fun _ => List.mem_of_getElem? hm, fun _ => lt_size_of_path? (path_of_getElem?_tree hm)⟩

/-! ## After any operations -/

/-- Parents and found modules are those that paths tell. -/
structure Coherent (t : LinkedTree) : Prop where
  nodup : t.paths.Nodup
  nonempty : ∀ p ∈ t.paths, p ≠ []
  /-- With a path its beginnings are there. -/
  closed : ∀ p ∈ t.paths, ∀ q, q ≠ [] → q <+: p → q ∈ t.paths
  top : ∀ m ∈ t.modules, m.parent = none ↔ m.path.length = 1
  parent : ∀ m ∈ t.modules, ∀ id, m.parent = some id → t.path? id = some m.path.dropLast
  find?_eq_some_iff : ∀ p id, t.find? p = some id ↔ t.path? id = some p

/-- What asking a tree for the module that a path stands for gives: its number, and the tree afterwards. -/
structure Ensured (t : LinkedTree) (path : ModulePath) (id : Nat) (t' : LinkedTree) : Prop where
  returned : t'.path? id = some (ModuleTree.resolve path)
  /-- The beginnings that are missing are added, and nothing else. -/
  paths : t'.paths = t.paths ++ (ModuleTree.resolve path).beginnings.filter fun p => p ∉ t.paths
  /-- A module that was there keeps its number, its path and its names. -/
  kept : ∀ (n : Nat) (m : LinkedModule), t.modules[n]? = some m →
    ∃ o : LinkedModule, t'.modules[n]? = some o ∧ o.path = m.path ∧ o.names = m.names
  /-- A module that is added has no names. -/
  fresh : ∀ (n : Nat) (m : LinkedModule), t.size ≤ n → t'.modules[n]? = some m → m.names = ∅

/-- Numbers of modules list each module once, in strictly ascending order of their paths. They are what
the walk gives, whatever turns it is given over one for each module. -/
structure Lists (t : LinkedTree) (ids : List Nat) : Prop where
  walked : ∀ turns, t.size ≤ turns → t.walk turns t.roots.values = some ids
  once : ids.Perm (List.range t.size)
  ascending : (ids.filterMap t.path?).Pairwise (· < ·)

theorem Linked.coherent (h : t.Linked) : t.Coherent where
  nodup := h.nodup
  nonempty := fun _ hp hnil => h.nonempty (hnil ▸ hp)
  closed := fun _ hp _ hq hbegins => h.mem_of_prefix hp hq hbegins
  top := by
    intro m hm
    have hparent := h.mirrors.parent m hm
    have habove := h.parent m hm
    have hpos : 0 < m.path.length := List.length_pos_iff.mpr (h.ne_nil_of_mem hm)
    rw [ModulePath.parent?] at hparent
    constructor
    · intro hnone
      rw [hnone] at hparent
      split at hparent
      · omega
      · exact absurd hparent (by simp)
    · intro hlength
      cases hsome : m.parent with
      | none => rfl
      | some id =>
          rw [hsome] at hparent habove
          rw [if_pos (by omega)] at hparent
          exact absurd (hparent.symm.trans habove) (by simp)
  parent := by
    intro m hm id hid
    have hparent := h.parent m hm
    rw [hid] at hparent
    exact hparent
  find?_eq_some_iff := fun _ _ => find?_eq_some_iff h

theorem Linked.ensured (h : t.Linked) (path : ModulePath) :
    t.Ensured path (t.ensure path).1 (t.ensure path).2 := by
  obtain ⟨_, htree, hpath⟩ := ensure_spec h path
  have hmodules : (t.ensure path).2.tree.modules = t.tree.modules ++
      ((ModuleTree.resolve path).beginnings.filter fun p => p ∉ t.paths).map
        fun p => { path := p } := by
    rw [htree, ModuleTree.modules_ensure, paths_tree]
  refine ⟨hpath, ?_, ?_, ?_⟩
  · rw [← paths_tree, ModuleTree.paths, hmodules, List.map_append, ← ModuleTree.paths, paths_tree]
    simp [Function.comp_def]
  · intro n m hm
    have hget : (t.ensure path).2.tree.modules[n]? = some m.bare := by
      have hlt : n < t.tree.modules.length := by
        rw [tree, List.length_map]
        exact (List.getElem?_eq_some_iff.mp hm).1
      rw [hmodules, List.getElem?_append_left hlt, getElem?_tree, hm, Option.map_some]
    rw [getElem?_tree] at hget
    obtain ⟨o, ho, hbare⟩ := Option.map_eq_some_iff.mp hget
    exact ⟨o, ho, congrArg Module.path hbare, congrArg Module.names hbare⟩
  · intro n m hn hm
    have hget : (t.ensure path).2.tree.modules[n]? = some m.bare := by
      rw [getElem?_tree, hm, Option.map_some]
    have hle : t.tree.modules.length ≤ n := by
      rw [tree, List.length_map]
      exact hn
    rw [hmodules, List.getElem?_append_right hle] at hget
    obtain ⟨p, _, hp⟩ := List.mem_map.mp (List.mem_of_getElem? hget)
    exact (congrArg Module.names hp).symm

theorem Linked.exists_lists (h : t.Linked) : ∃ ids, t.sorted = some ids ∧ t.Lists ids := by
  obtain ⟨ids, hsorted, hmem, hascending⟩ := sorted_spec h
  refine ⟨ids, hsorted, fun turns hturns => walk_of_le hturns hsorted, ?_, hascending.pairwise_paths⟩
  have hn : ids.Nodup := by
    refine hascending.imp_of_mem ?_
    rintro a _ ha _ hlt rfl
    obtain ⟨p, hp⟩ := exists_path? ((hmem a).mp ha)
    exact lt_irrefl p (hlt p p hp hp)
  refine (List.perm_ext_iff_of_nodup hn List.nodup_range).mpr fun x => ?_
  rw [hmem, List.mem_range]

/-- The paths that operations ask for. -/
def asked (ops : List TreeOperation) : List ModulePath :=
  ops.filterMap fun
    | .ensure path => some path
    | .claim _ _ _ => none

/-- The paths in a tree are the beginnings of what was asked for. -/
theorem mem_paths_after_iff (ops : List TreeOperation) :
    p ∈ (after ops).paths ↔ p ≠ [] ∧ ∃ q ∈ asked ops, p <+: ModuleTree.resolve q := by
  have hfold : ∀ (ops : List TreeOperation) (u : ModuleTree),
      p ∈ (ops.foldl ModuleTree.perform u).paths ↔
        p ∈ u.paths ∨ (p ≠ [] ∧ ∃ q ∈ asked ops, p <+: ModuleTree.resolve q) := by
    intro ops
    induction ops with
    | nil => simp [asked]
    | cons op rest ih =>
        intro u
        rw [List.foldl_cons, ih]
        cases op with
        | ensure path =>
            rw [ModuleTree.perform, ModuleTree.mem_paths_ensure_iff, or_assoc, ← and_or_left]
            simp [asked]
        | claim id preferred source =>
            have hpaths : (u.perform (.claim id preferred source)).paths = u.paths := by
              rw [ModuleTree.perform]
              split
              · exact ModuleTree.paths_enter _ _ _ _
              · rfl
            rw [hpaths]
            rfl
  rw [← paths_tree, (linked_after ops).2, ModuleTree.after, hfold]
  simp [ModuleTree.paths]

/-- After any operations on an empty tree: links and found modules are those that paths tell; a path is
given its module, and all other modules are left alone; all modules are listed in the order of their
paths, which depends only on the paths that were asked for; and the tree that looks modules up by
their paths tells the same. -/
theorem coherent_after (ops : List TreeOperation) :
    (after ops).Coherent ∧
    (∀ path, (after ops).Ensured path ((after ops).ensure path).1 ((after ops).ensure path).2) ∧
    (∃ ids, (after ops).sorted = some ids ∧ (after ops).Lists ids) ∧
    (∀ ops', (∀ p, p ∈ asked ops ↔ p ∈ asked ops') →
      (after ops).sortedPaths = (after ops').sortedPaths) ∧
    (after ops).Mirrors (ModuleTree.after ops) := by
  obtain ⟨hlinked, htree⟩ := linked_after ops
  refine ⟨hlinked.coherent, hlinked.ensured, hlinked.exists_lists, ?_, htree ▸ hlinked.mirrors⟩
  intro ops' hasked
  refine sortedPaths_congr hlinked (linked_after ops').1 fun p => ?_
  simp only [mem_paths_after_iff, hasked]

end TypeGraph.LinkedTree
