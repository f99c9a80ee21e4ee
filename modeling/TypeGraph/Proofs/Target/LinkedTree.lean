import Mathlib.Data.List.Induction
import TypeGraph.Proofs.Target.Paths
import TypeGraph.Target.LinkedTree

/-!
# Links agree with paths

In a linked tree the module above a module has its path without the last segment, and a link leads from a
place to a module just when the path of the module is that of the place with one more segment
(`LinkedTree.Linked`). One step down keeps this, whether it finds its module or adds it, and so does
entering a name. Without its links the tree is the one that looks modules up by their paths
(`ensure_spec`, `tree_claim`).
-/

namespace TypeGraph

/-- A change that a view does not show leaves the view of the list as it is. -/
theorem map_modify_of_same {α β : Type} (view : α → β) (f : α → α) (h : ∀ a, view (f a) = view a)
    (xs : List α) (i : Nat) : (xs.modify i f).map view = xs.map view := by
  refine List.ext_getElem? fun j => ?_
  rw [List.getElem?_map, List.getElem?_map, List.getElem?_modify]
  cases xs[j]? with
  | none => rfl
  | some a =>
      simp only [Option.map_eq_map, Option.map_some]
      split
      · rw [h]
      · rfl

namespace LinkedTree

variable {t t' : LinkedTree} {place place' : Option Nat} {p q path : ModulePath} {s segment : String}
  {id n : Nat} {m : LinkedModule}

/-! ## Paths -/

/-- The path of a place. What is above the modules at the top has the empty path. -/
def pathAt? (t : LinkedTree) : Option Nat → Option ModulePath
  | none => some []
  | some id => t.path? id

/-- The paths of all modules in the order of their creation. -/
def paths (t : LinkedTree) : List ModulePath := t.modules.map (·.path)

theorem paths_tree (t : LinkedTree) : t.tree.paths = t.paths := by
  simp [tree, ModuleTree.paths, paths, LinkedModule.bare]

theorem path?_eq (t : LinkedTree) (id : Nat) : t.path? id = t.paths[id]? := by
  simp [path?, paths]

theorem size_eq (t : LinkedTree) : t.size = t.paths.length := by
  simp [size, paths]

theorem path?_eq_some_iff : t.path? id = some p ↔ ∃ m, t.modules[id]? = some m ∧ m.path = p := by
  simp [path?]

theorem lt_size_of_path? (h : t.path? id = some p) : id < t.size := by
  rw [path?_eq, List.getElem?_eq_some_iff] at h
  rw [size_eq]
  exact h.1

theorem path?_size (t : LinkedTree) : t.path? t.size = none := by
  rw [path?_eq, size_eq, List.getElem?_eq_none (Nat.le_refl _)]

theorem exists_path? (h : id < t.size) : ∃ p, t.path? id = some p := by
  rw [size_eq] at h
  exact ⟨t.paths[id], by rw [path?_eq, List.getElem?_eq_getElem h]⟩

theorem mem_paths_iff : p ∈ t.paths ↔ ∃ id, t.path? id = some p := by
  rw [List.mem_iff_getElem?]
  simp only [path?_eq]

/-! ## Links -/

/-- The links of a tree agree with its paths. -/
structure Linked (t : LinkedTree) : Prop where
  nodup : t.paths.Nodup
  nonempty : [] ∉ t.paths
  /-- The place above a module has its path without the last segment. -/
  parent : ∀ m ∈ t.modules, t.pathAt? m.parent = some m.path.dropLast
  /-- A link leads to the module whose path has one more segment. -/
  below : ∀ place p, t.pathAt? place = some p → ∀ s id,
    (t.below place).get? s = some id ↔ t.path? id = some (p ++ [s])

theorem linked_empty : ({} : LinkedTree).Linked where
  nodup := List.nodup_nil
  nonempty := List.not_mem_nil
  parent := fun _ hm => absurd hm List.not_mem_nil
  below := by
    intro place p hplace s id
    cases place with
    | none => simp [below, path?, NameMap.get?, EmptyCollection.emptyCollection]
    | some above => simp [pathAt?, path?] at hplace

namespace Linked

theorem id_unique (h : t.Linked) (hid : t.path? id = some p) (hn : t.path? n = some p) : id = n := by
  have hlt := lt_size_of_path? hid
  rw [size_eq] at hlt
  rw [path?_eq] at hid hn
  exact (List.getElem?_inj hlt h.nodup).mp (hid.trans hn.symm)

theorem path_ne_nil (h : t.Linked) (hid : t.path? id = some p) : p ≠ [] := by
  rintro rfl
  exact h.nonempty (mem_paths_iff.mpr ⟨id, hid⟩)

theorem ne_nil_of_mem (h : t.Linked) (hm : m ∈ t.modules) : m.path ≠ [] :=
  fun hnil => h.nonempty (hnil ▸ List.mem_map_of_mem hm)

theorem nodup_tree (h : t.Linked) : t.tree.paths.Nodup := by
  rw [paths_tree]
  exact h.nodup

/-- Places are told apart by their paths. -/
theorem place_unique (h : t.Linked) (hplace : t.pathAt? place = some p)
    (hplace' : t.pathAt? place' = some p) : place = place' := by
  cases place with
  | none =>
      obtain rfl : [] = p := Option.some.inj hplace
      cases place' with
      | none => rfl
      | some id => exact absurd rfl (h.path_ne_nil hplace')
  | some id =>
      cases place' with
      | none =>
          obtain rfl : [] = p := Option.some.inj hplace'
          exact absurd rfl (h.path_ne_nil hplace)
      | some n => rw [h.id_unique hplace hplace']

/-- Above every module there are all modules with the beginnings of its path. -/
theorem mem_of_prefix (h : t.Linked) (hp : p ∈ t.paths) (hq : q ≠ []) (hbegins : q <+: p) :
    q ∈ t.paths := by
  induction p using List.reverseRecOn with
  | nil => exact absurd (List.prefix_nil.mp hbegins) hq
  | append_singleton r s ih =>
      rcases List.prefix_concat_iff.mp hbegins with rfl | hr
      · exact hp
      · refine ih ?_ hr
        obtain ⟨m, hm, hpath⟩ := List.mem_map.mp hp
        have hparent := h.parent m hm
        rw [hpath, List.dropLast_concat] at hparent
        cases habove : m.parent with
        | none =>
            -- the empty path has no beginning but itself
            rw [habove] at hparent
            obtain rfl : [] = r := Option.some.inj hparent
            exact absurd (List.prefix_nil.mp hr) hq
        | some id =>
            rw [habove] at hparent
            exact mem_paths_iff.mpr ⟨id, hparent⟩

/-- A change that shows neither in paths nor in links keeps them in agreement. -/
theorem of_same (h : t.Linked) (hpaths : t'.paths = t.paths) (hbelow : t'.below = t.below)
    (hparent : ∀ m ∈ t'.modules, ∃ o ∈ t.modules, m.path = o.path ∧ m.parent = o.parent) :
    t'.Linked := by
  have hpath? : t'.path? = t.path? := by
    funext id
    rw [path?_eq, path?_eq, hpaths]
  have hpathAt? : t'.pathAt? = t.pathAt? := by
    funext place
    cases place with
    | none => rfl
    | some id => exact congrFun hpath? id
  refine ⟨hpaths ▸ h.nodup, hpaths ▸ h.nonempty, ?_, ?_⟩
  · intro m hm
    obtain ⟨o, ho, hpath, habove⟩ := hparent m hm
    rw [hpathAt?, hpath, habove]
    exact h.parent o ho
  · rw [hpathAt?, hpath?, hbelow]
    exact h.below

end Linked

/-! ## Adding a module -/

theorem tree_attach (t : LinkedTree) (place : Option Nat) (path : ModulePath) (segment : String) :
    (t.attach place path segment).tree = ⟨t.tree.modules ++ [{ path := path }]⟩ := by
  cases place with
  | none => simp [attach, tree, LinkedModule.bare]
  | some above =>
      simp only [attach, tree, ModuleTree.mk.injEq]
      rw [map_modify_of_same LinkedModule.bare (·.link segment t.size) fun _ => rfl]
      simp [LinkedModule.bare]

theorem paths_attach (t : LinkedTree) (place : Option Nat) (path : ModulePath) (segment : String) :
    (t.attach place path segment).paths = t.paths ++ [path] := by
  rw [← paths_tree, tree_attach, ← paths_tree]
  simp [ModuleTree.paths]

theorem path?_attach (t : LinkedTree) (place : Option Nat) (path : ModulePath) (segment : String)
    (id : Nat) : (t.attach place path segment).path? id =
      if id = t.size then some path else t.path? id := by
  rw [path?_eq, paths_attach, path?_eq, size_eq, List.getElem?_append]
  by_cases hlt : id < t.paths.length
  · rw [if_pos hlt, if_neg (by omega)]
  · rw [if_neg hlt]
    by_cases heq : id = t.paths.length
    · simp [heq]
    · rw [if_neg heq, List.getElem?_eq_none (by simp; omega), List.getElem?_eq_none (by omega)]

theorem pathAt?_attach_of_some (hplace : t.pathAt? place' = some q) :
    (t.attach place path segment).pathAt? place' = some q := by
  cases place' with
  | none => exact hplace
  | some id =>
      have hlt := lt_size_of_path? hplace
      rw [pathAt?, path?_attach, if_neg (by omega)]
      exact hplace

theorem pathAt?_of_attach (hplace : (t.attach place path segment).pathAt? place' = some q)
    (hne : place' ≠ some t.size) : t.pathAt? place' = some q := by
  cases place' with
  | none => exact hplace
  | some id =>
      rw [pathAt?, path?_attach, if_neg fun heq => hne (congrArg some heq)] at hplace
      exact hplace

/-- The modules after adding one are the old ones, up to a link, and the new one. -/
theorem mem_attach (hm : m ∈ (t.attach place path segment).modules) :
    (∃ o ∈ t.modules, m.path = o.path ∧ m.parent = o.parent) ∨ (m.path = path ∧ m.parent = place) := by
  -- links to lower modules do not show in the view
  let view (o : LinkedModule) : ModulePath × Option Nat := (o.path, o.parent)
  have hview : (t.attach place path segment).modules.map view =
      (t.modules ++ [({ path, parent := place } : LinkedModule)]).map view := by
    cases place with
    | none => rfl
    | some above => exact map_modify_of_same view (·.link segment t.size) (fun _ => rfl) _ _
  have hmem : view m ∈ (t.modules ++ [({ path, parent := place } : LinkedModule)]).map view :=
    hview ▸ List.mem_map_of_mem hm
  obtain ⟨o, ho, heq⟩ := List.mem_map.mp hmem
  obtain ⟨hpath, hparent⟩ := Prod.mk.inj heq
  rcases List.mem_append.mp ho with hold | hnew
  · exact Or.inl ⟨o, hold, hpath.symm, hparent.symm⟩
  · obtain rfl := List.mem_singleton.mp hnew
    exact Or.inr ⟨hpath.symm, hparent.symm⟩

theorem below_attach_self (hplace : t.pathAt? place = some p) :
    (t.attach place path segment).below place = (t.below place).insert segment t.size := by
  cases place with
  | none => rfl
  | some above =>
      have hlt : above < t.modules.length := lt_size_of_path? hplace
      simp [attach, below, List.getElem?_append_left hlt, List.getElem?_eq_getElem hlt,
        LinkedModule.link]

theorem below_attach_of_ne (hne : place' ≠ place) :
    (t.attach place path segment).below place' =
      if place' = some t.size then ∅ else t.below place' := by
  have hnew : ∀ id, ((t.modules ++ [{ path, parent := place }])[id]?.map (·.children)).getD ∅ =
      if id = t.size then ∅ else t.below (some id) := by
    intro id
    rw [List.getElem?_append, below, size]
    by_cases hlt : id < t.modules.length
    · rw [if_pos hlt, if_neg (by omega)]
    · rw [if_neg hlt, List.getElem?_eq_none (l := t.modules) (by omega)]
      by_cases heq : id = t.modules.length
      · simp [heq]
      · rw [List.getElem?_eq_none (by simp; omega), if_neg heq]
  cases place' with
  | none =>
      cases place with
      | none => exact absurd rfl hne
      | some above => simp [attach, below]
  | some id =>
      simp only [Option.some.injEq]
      cases place with
      | none => exact hnew id
      | some above =>
          have habove : above ≠ id := fun heq => hne (congrArg some heq.symm)
          rw [← hnew id, attach, below, List.getElem?_modify]
          simp [habove]

namespace Linked

/-- The place that a module is added below has one link more. -/
theorem get?_attach_self (h : t.Linked) (hplace : t.pathAt? place = some p)
    (hnew : p ++ [s] ∉ t.paths) (s' : String) (id : Nat) :
    ((t.attach place (p ++ [s]) s).below place).get? s' = some id ↔
      (t.attach place (p ++ [s]) s).path? id = some (p ++ [s']) := by
  rw [below_attach_self hplace, NameMap.get?_insert, path?_attach]
  by_cases hs : s' = s
  · subst hs
    rw [if_pos rfl]
    constructor
    · intro hid
      rw [if_pos (Option.some.inj hid).symm]
    · intro hid
      by_cases hlast : id = t.size
      · rw [hlast]
      · rw [if_neg hlast] at hid
        exact absurd (mem_paths_iff.mpr ⟨id, hid⟩) hnew
  · rw [if_neg hs, h.below place p hplace]
    by_cases hlast : id = t.size
    · subst hlast
      simp [path?_size, Ne.symm hs]
    · rw [if_neg hlast]

/-- Nothing is below the new module, since no path went on from its own. -/
theorem path?_attach_ne (h : t.Linked) (hnew : p ++ [s] ∉ t.paths) (s' : String) (id : Nat) :
    (t.attach place (p ++ [s]) s).path? id ≠ some (p ++ [s] ++ [s']) := by
  rw [path?_attach]
  split
  · simp
  · intro hid
    refine hnew (h.mem_of_prefix (mem_paths_iff.mpr ⟨id, hid⟩) (by simp) ?_)
    exact List.prefix_append _ _

/-- The links of other places stay as they are, and their paths are continued as before. -/
theorem get?_attach_of_ne (h : t.Linked) (hplace : t.pathAt? place = some p)
    (hplace' : t.pathAt? place' = some q) (hne : place' ≠ place) (s' : String) (id : Nat) :
    (t.below place').get? s' = some id ↔
      (t.attach place (p ++ [s]) s).path? id = some (q ++ [s']) := by
  rw [path?_attach, h.below place' q hplace']
  by_cases hlast : id = t.size
  · subst hlast
    rw [path?_size, if_pos rfl]
    constructor
    · intro hsome
      exact absurd hsome (by simp)
    · intro heq
      have hsame : p = q := (List.append_inj' (Option.some.inj heq) rfl).1
      exact absurd (h.place_unique (hsame ▸ hplace') hplace) hne
  · rw [if_neg hlast]

/-- Adding a module that is missing keeps links and paths in agreement. -/
theorem attach (h : t.Linked) (hplace : t.pathAt? place = some p) (hnew : p ++ [s] ∉ t.paths) :
    (t.attach place (p ++ [s]) s).Linked where
  nodup := by
    rw [paths_attach]
    exact List.nodup_append.mpr ⟨h.nodup, by simp, by
      rintro a ha b hb rfl
      exact hnew (List.mem_singleton.mp hb ▸ ha)⟩
  nonempty := by
    rw [paths_attach, List.mem_append]
    rintro (hold | hlast)
    · exact h.nonempty hold
    · simp at hlast
  parent := by
    intro m hm
    rcases mem_attach hm with ⟨o, ho, hpath, hparent⟩ | ⟨hpath, hparent⟩
    · rw [hpath, hparent]
      exact pathAt?_attach_of_some (h.parent o ho)
    · rw [hpath, hparent, List.dropLast_concat]
      exact pathAt?_attach_of_some hplace
  below := by
    intro place' q hplace' s' id
    by_cases hself : place' = place
    · subst hself
      obtain rfl : p = q := by
        rw [pathAt?_attach_of_some hplace] at hplace'
        exact Option.some.inj hplace'
      exact h.get?_attach_self hplace hnew s' id
    rw [below_attach_of_ne hself]
    by_cases hlast : place' = some t.size
    · subst hlast
      rw [pathAt?, path?_attach, if_pos rfl] at hplace'
      obtain rfl : p ++ [s] = q := Option.some.inj hplace'
      rw [if_pos rfl]
      exact ⟨fun hid => absurd hid (by simp [NameMap.get?, EmptyCollection.emptyCollection]),
        fun hid => absurd hid (h.path?_attach_ne hnew s' id)⟩
    · rw [if_neg hlast]
      exact h.get?_attach_of_ne hplace (pathAt?_of_attach hplace' hlast) hself s' id

end Linked

/-! ## Going down -/

/-- One step down leads to the module with one segment more. It is added when it is missing, and then
nothing else changes. -/
theorem step_spec (h : t.Linked) (hplace : t.pathAt? place = some p) (s : String) :
    (t.step place (p ++ [s]) s).2.Linked ∧
      (t.step place (p ++ [s]) s).2.tree = t.tree.add (p ++ [s]) ∧
      (t.step place (p ++ [s]) s).2.path? (t.step place (p ++ [s]) s).1 = some (p ++ [s]) := by
  have hcontains : t.tree.contains (p ++ [s]) = true ↔ p ++ [s] ∈ t.paths := by
    rw [ModuleTree.contains_iff_mem_paths, paths_tree]
  cases hlink : (t.below place).get? s with
  | some id =>
      have hpath : t.path? id = some (p ++ [s]) := (h.below place p hplace s id).mp hlink
      have hthere : t.tree.contains (p ++ [s]) = true := hcontains.mpr (mem_paths_iff.mpr ⟨id, hpath⟩)
      rw [step, hlink, ModuleTree.add, if_pos hthere]
      exact ⟨h, rfl, hpath⟩
  | none =>
      have hnew : p ++ [s] ∉ t.paths := by
        intro hmem
        obtain ⟨id, hid⟩ := mem_paths_iff.mp hmem
        have hsome := (h.below place p hplace s id).mpr hid
        exact absurd (hlink.symm.trans hsome) (by simp)
      have hnot : t.tree.contains (p ++ [s]) ≠ true := fun hin => hnew (hcontains.mp hin)
      rw [step, hlink, ModuleTree.add, if_neg hnot]
      refine ⟨h.attach hplace hnew, tree_attach t place (p ++ [s]) s, ?_⟩
      rw [path?_attach, if_pos rfl]

/-- The way down leads to the module at its end and creates what is missing on the way. -/
theorem descend_spec (rest : List String) :
    ∀ {t : LinkedTree} {place : Option Nat} {p : ModulePath} (s : String), t.Linked →
      t.pathAt? place = some p →
      (t.descend place p s rest).2.Linked ∧
        (t.descend place p s rest).2.tree =
          ((ModulePath.beginnings (s :: rest)).map (p ++ ·)).foldl ModuleTree.add t.tree ∧
        (t.descend place p s rest).2.path? (t.descend place p s rest).1 = some (p ++ s :: rest) := by
  induction rest with
  | nil =>
      intro t place p s h hplace
      exact step_spec h hplace s
  | cons next rest ih =>
      intro t place p s h hplace
      obtain ⟨hlinked, htree, hpath⟩ := step_spec h hplace s
      have hplace' : (t.step place (p ++ [s]) s).2.pathAt? (some (t.step place (p ++ [s]) s).1) =
          some (p ++ [s]) := hpath
      obtain ⟨hlinked', htree', hpath'⟩ := ih next hlinked hplace'
      refine ⟨hlinked', htree'.trans ?_, hpath'.trans ?_⟩
      · have hbeginnings : ModulePath.beginnings (s :: next :: rest) =
            [s] :: (ModulePath.beginnings (next :: rest)).map (s :: ·) := rfl
        rw [htree, hbeginnings]
        simp [Function.comp_def]
      · rw [List.append_assoc]
        rfl

/-- The module that a path stands for is found or created like in the tree without links. -/
theorem ensure_spec (h : t.Linked) (path : ModulePath) :
    (t.ensure path).2.Linked ∧ (t.ensure path).2.tree = t.tree.ensure path ∧
      (t.ensure path).2.path? (t.ensure path).1 = some (ModuleTree.resolve path) := by
  have htop : t.pathAt? none = some [] := rfl
  cases path with
  | nil =>
      obtain ⟨hlinked, htree, hpath⟩ := descend_spec [] "global" h htop
      exact ⟨hlinked, htree, hpath⟩
  | cons s rest =>
      obtain ⟨hlinked, htree, hpath⟩ := descend_spec rest s h htop
      refine ⟨hlinked, ?_, hpath⟩
      rw [ensure, htree, ModuleTree.ensure]
      simp [ModuleTree.resolve]

/-! ## Operations -/

end LinkedTree

/-- An operation on a tree of modules. -/
inductive TreeOperation where
  /-- Asks for the module that a path stands for. -/
  | ensure (path : ModulePath)
  /-- Reserves a name in the module with a number. -/
  | claim (id : Nat) (preferred source : String)

namespace ModuleTree

/-- The tree after an operation. Modules are numbered in the order of their creation. -/
def perform (t : ModuleTree) : TreeOperation → ModuleTree
  | .ensure path => t.ensure path
  | .claim id preferred source =>
    match t.modules[id]? with
    | some m => (t.reserve m.path preferred source).2
    | none => t

/-- The tree after some operations, from the beginning. -/
def after (ops : List TreeOperation) : ModuleTree := ops.foldl perform {}

end ModuleTree

namespace LinkedTree

variable {t : LinkedTree}

/-- The tree after an operation. -/
def perform (t : LinkedTree) : TreeOperation → LinkedTree
  | .ensure path => (t.ensure path).2
  | .claim id preferred source => (t.claim id preferred source).2

/-- The tree after some operations, from the beginning. -/
def after (ops : List TreeOperation) : LinkedTree := ops.foldl perform {}

/-- Entering a name changes neither paths nor links. -/
theorem Linked.claim (h : t.Linked) (id : Nat) (preferred source : String) :
    (t.claim id preferred source).2.Linked := by
  refine h.of_same ?_ ?_ ?_
  · exact map_modify_of_same LinkedModule.path (·.enter _ source) (fun _ => rfl) _ _
  · have hlinks : (t.claim id preferred source).2.modules.map (·.children) =
        t.modules.map (·.children) :=
      map_modify_of_same LinkedModule.children (·.enter _ source) (fun _ => rfl) _ _
    funext place
    cases place with
    | none => rfl
    | some n => rw [LinkedTree.below, LinkedTree.below, ← List.getElem?_map, hlinks, List.getElem?_map]
  · intro m hm
    let view (o : LinkedModule) : ModulePath × Option Nat := (o.path, o.parent)
    have hview : (t.claim id preferred source).2.modules.map view = t.modules.map view :=
      map_modify_of_same view (·.enter _ source) (fun _ => rfl) _ _
    obtain ⟨o, ho, heq⟩ := List.mem_map.mp (hview ▸ List.mem_map_of_mem (f := view) hm)
    obtain ⟨hpath, hparent⟩ := Prod.mk.inj heq
    exact ⟨o, ho, hpath.symm, hparent.symm⟩

theorem claim_eq {id : Nat} {m : LinkedModule} (hid : t.modules[id]? = some m)
    (preferred source : String) :
    t.claim id preferred source = (freshName preferred m.names.keys,
      { t with modules := t.modules.modify id (·.enter (freshName preferred m.names.keys) source) }) := by
  simp [LinkedTree.claim, hid]

/-- The names in a module are those at its path. -/
theorem Linked.namesAt_tree (h : t.Linked) {id : Nat} {m : LinkedModule}
    (hid : t.modules[id]? = some m) : t.tree.namesAt m.path = m.names.keys := by
  have hmem : m.bare ∈ t.tree.modules := List.mem_map_of_mem (List.mem_of_getElem? hid)
  exact ModuleTree.namesAt_of_mem h.nodup_tree hmem

/-- Entering a name in the module with a number is entering it at the path of that module. -/
theorem tree_claim (h : t.Linked) (id : Nat) (preferred source : String) :
    (t.claim id preferred source).2.tree = t.tree.perform (.claim id preferred source) := by
  have hmodules : t.tree.modules = t.modules.map LinkedModule.bare := rfl
  rw [ModuleTree.perform, hmodules, List.getElem?_map]
  cases hid : t.modules[id]? with
  | none =>
      have hout : t.modules.length ≤ id := List.getElem?_eq_none_iff.mp hid
      simp [LinkedTree.claim, tree, List.modify_eq_self hout]
  | some m =>
      have hreserve : (t.tree.reserve m.path preferred source).2 =
          t.tree.enter m.path (freshName preferred m.names.keys) source := by
        rw [ModuleTree.reserve, ModuleTree.freeName, h.namesAt_tree hid]
      refine Eq.trans ?_ hreserve.symm
      rw [claim_eq hid, tree, ModuleTree.enter, hmodules, List.map_map, ModuleTree.mk.injEq]
      refine List.ext_getElem? fun n => ?_
      rw [List.getElem?_map, List.getElem?_map, List.getElem?_modify]
      cases ho : t.modules[n]? with
      | none => rfl
      | some o =>
          -- only one module has this path
          have hsame : o.path = m.path ↔ id = n := by
            constructor
            · intro hpath
              exact h.id_unique (path?_eq_some_iff.mpr ⟨m, hid, rfl⟩)
                (path?_eq_some_iff.mpr ⟨o, ho, hpath⟩)
            · rintro rfl
              rw [Option.some.inj (hid.symm.trans ho)]
          by_cases heq : id = n
          · simp [heq, hsame.mpr heq, LinkedModule.bare, LinkedModule.enter]
          · simp [heq, hsame, LinkedModule.bare]

/-- After any operations links and paths agree, and without links the tree is the one that the same
operations make. -/
theorem linked_after (ops : List TreeOperation) :
    (after ops).Linked ∧ (after ops).tree = ModuleTree.after ops := by
  have hfold : ∀ (ops : List TreeOperation) (t : LinkedTree), t.Linked →
      (ops.foldl perform t).Linked ∧
        (ops.foldl perform t).tree = ops.foldl ModuleTree.perform t.tree := by
    intro ops
    induction ops with
    | nil => exact fun t h => ⟨h, rfl⟩
    | cons op rest ih =>
        intro t h
        have hstep : (t.perform op).Linked ∧ (t.perform op).tree = t.tree.perform op := by
          cases op with
          | ensure path =>
              obtain ⟨hlinked, htree, _⟩ := ensure_spec h path
              exact ⟨hlinked, htree⟩
          | claim id preferred source =>
              exact ⟨h.claim id preferred source, tree_claim h id preferred source⟩
        rw [List.foldl_cons, List.foldl_cons, ← hstep.2]
        exact ih _ hstep.1
  exact hfold ops {} linked_empty

end LinkedTree

end TypeGraph
