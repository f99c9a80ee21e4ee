import TypeGraph.Proofs.Conversion.Lasting
import TypeGraph.Proofs.Run.Failures
import TypeGraph.Proofs.Run.Resolution
import TypeGraph.Proofs.Target.Paths

/-!
# Resolution only adds

Resolving a reference may declare types on demand, and that is all it does to the state. The table and
the modules go on behind what they held, the types that were declared wait behind those that waited, and
a module gets the names of the new shells in it and no others (`Conversion.Extends`). Each shell is for a
type that the reference mentions. When the reference is resolved again, all that it needs is declared or
cannot be, so only the types without a target are reported once more (`needAll_of_settled`).
-/

namespace TypeGraph

/-- The entries of a module are those of the declarations that belong to it. -/
theorem Graph.Owned.mem_entries_iff {g : Graph} {m : Module} {name source : String} (h : g.Owned)
    (hm : m ∈ g.modules.modules) : (name, source) ∈ m.names.entries ↔
      ∃ d ∈ g.table.declarations, d.source = source ∧ d.name = name ∧ d.module = m.path := by
  constructor
  · intro hentry
    exact h.entry m hm name source hentry
  · rintro ⟨d, hd, rfl, rfl, hmodule⟩
    obtain ⟨o, ho, hpath, hentry⟩ := h.owner d hd
    obtain rfl : o = m := List.inj_on_of_nodup_map h.paths ho hm (hpath.trans hmodule)
    exact hentry

theorem ModuleTree.getElem?_paths (t : ModuleTree) (i : Nat) :
    t.paths[i]? = t.modules[i]?.map (·.path) := by
  rw [paths, List.getElem?_map]

namespace Conversion

variable {env : Env} {s t u : Conversion} {d : Descriptor} {r : TypeRef} {name : String}
  {names : List String} {found found' : List Descriptor} {shells shells' : List Declaration}

/-! ## Types on demand -/

/-- The shell that a type gets on demand, under whatever name is free. -/
structure OnDemand (env : Env) (d : Descriptor) (shell : Declaration) : Prop where
  source : shell.source = d.name
  module : shell.module = env.placement.path d
  progress : shell.progress = .registered
  body : shell.body = if d.isEnum then .emptyEnum else .emptyInterface

/-- A state with nothing more than the shells of some types that wait, in order. -/
structure Grows (env : Env) (s t : Conversion) (found : List Descriptor)
    (shells : List Declaration) : Prop where
  declarations : t.table.declarations = s.table.declarations ++ shells
  pending : t.pending = s.pending ++ found
  onDemand : List.Forall₂ (OnDemand env) found shells
  /-- New modules come behind the others, and one of the types is in them or below. -/
  paths : ∃ more, t.modules.paths = s.modules.paths ++ more ∧
    ∀ p ∈ more, p ≠ [] ∧ ∃ d ∈ found, p <+: env.placement.path d
  warnings : s.warnings <+: t.warnings

namespace Grows

theorem refl (s : Conversion) : Grows env s s [] [] where
  declarations := (List.append_nil _).symm
  pending := (List.append_nil _).symm
  onDemand := .nil
  paths := ⟨[], (List.append_nil _).symm, fun _ hp => absurd hp List.not_mem_nil⟩
  warnings := List.prefix_rfl

theorem trans (h : Grows env s t found shells) (h' : Grows env t u found' shells') :
    Grows env s u (found ++ found') (shells ++ shells') where
  declarations := by rw [h'.declarations, h.declarations, List.append_assoc]
  pending := by rw [h'.pending, h.pending, List.append_assoc]
  onDemand := List.rel_append h.onDemand h'.onDemand
  paths := by
    obtain ⟨more, hmore, hbelow⟩ := h.paths
    obtain ⟨more', hmore', hbelow'⟩ := h'.paths
    refine ⟨more ++ more', by rw [hmore', hmore, List.append_assoc], ?_⟩
    intro p hp
    rcases List.mem_append.mp hp with hfirst | hsecond
    · obtain ⟨hne, d, hd, hprefix⟩ := hbelow p hfirst
      exact ⟨hne, d, List.mem_append_left _ hd, hprefix⟩
    · obtain ⟨hne, d, hd, hprefix⟩ := hbelow' p hsecond
      exact ⟨hne, d, List.mem_append_right _ hd, hprefix⟩
  warnings := h.warnings.trans h'.warnings

/-- A path keeps its place. -/
theorem path_of_getElem? (h : Grows env s t found shells) {i : Nat} {m : Module}
    (hm : s.modules.modules[i]? = some m) : t.modules.paths[i]? = some m.path := by
  obtain ⟨more, hmore, _⟩ := h.paths
  have hold : s.modules.paths[i]? = some m.path := by
    rw [ModuleTree.getElem?_paths, hm]
    rfl
  obtain ⟨hlt, _⟩ := List.getElem?_eq_some_iff.mp hold
  rw [hmore, List.getElem?_append_left hlt]
  exact hold

end Grows

theorem paths_register (shell : Body) (h : s.accepts env d = true) :
    (s.register env d shell).modules.paths = (s.modules.ensure (env.placement.path d)).paths := by
  simp only [register, h, if_true]
  exact ModuleTree.paths_enter _ _ _ _

theorem warnings_register (s : Conversion) (d : Descriptor) (shell : Body) :
    s.warnings <+: (s.register env d shell).warnings := by
  cases h : s.accepts env d with
  | false =>
      have hsame := register_of_not_accepts shell h
      exact ⟨[], by rw [hsame, List.append_nil]⟩
  | true =>
      simp only [register, h, if_true]
      split
      · exact List.prefix_rfl
      · exact List.prefix_append _ _

/-- Declaring a type on demand adds its shell. -/
theorem grows_demand (h : s.accepts env d = true) :
    ∃ shell, Grows env s (s.demand env d) [d] [shell] := by
  refine ⟨_, register_of_accepts (demandShell d) h, ?_, ?_, ?_, warnings_register s d (demandShell d)⟩
  · show (s.register env d (demandShell d)).pending ++ [d] = s.pending ++ [d]
    rw [pending_register]
  · exact .cons ⟨rfl, rfl, rfl, rfl⟩ .nil
  · refine ⟨(ModuleTree.resolve (env.placement.path d)).beginnings.filter
      fun p => p ∉ s.modules.paths, ?_, ?_⟩
    · show (s.register env d (demandShell d)).modules.paths = _
      rw [paths_register _ h, ModuleTree.paths, ModuleTree.modules_ensure, List.map_append,
        List.map_map]
      simp [ModuleTree.paths, Function.comp_def]
    · intro p hp
      have hresolve : ModuleTree.resolve (env.placement.path d) = env.placement.path d := by
        simp [ModuleTree.resolve, env.placement.path_ne_nil d]
      have hbegins := (List.mem_filter.mp hp).1
      rw [hresolve, ModulePath.mem_beginnings_iff] at hbegins
      exact ⟨hbegins.1, d, List.mem_singleton.mpr rfl, hbegins.2⟩

/-! ## Needs -/

/-- A known type that some identities ask for and that has no declaration yet. -/
structure Wanted (env : Env) (s : Conversion) (names : List String) (d : Descriptor) : Prop where
  known : env.index.find? d.name = some d
  named : d.name ∈ names
  declarable : env.isDeclarable d.name = true
  undeclared : s.table.contains d.name = false

theorem grows_need (env : Env) (s : Conversion) (name : String) : ∃ found shells,
    Grows env s (s.need env name) found shells ∧ ∀ d ∈ found, s.Wanted env [name] d := by
  rcases need_cases env s name with ⟨_, heq⟩ | ⟨_, _, heq⟩ | ⟨d, hfind, rfl, hdecl, hacc, heq⟩
  · rw [heq]
    exact ⟨[], [], .refl s, fun _ hd => absurd hd List.not_mem_nil⟩
  · rw [heq]
    refine ⟨[], [], ?_, fun _ hd => absurd hd List.not_mem_nil⟩
    exact { Grows.refl s with warnings := List.prefix_append _ _ }
  · rw [heq]
    obtain ⟨shell, hgrows⟩ := grows_demand hacc
    refine ⟨[d], [shell], hgrows, ?_⟩
    intro o ho
    obtain rfl := List.mem_singleton.mp ho
    exact ⟨hfind, List.mem_singleton.mpr rfl, hdecl, (accepts_iff.mp hacc).2⟩

theorem grows_needAll (env : Env) (s : Conversion) (names : List String) : ∃ found shells,
    Grows env s (s.needAll env names) found shells ∧ ∀ d ∈ found, s.Wanted env names d := by
  induction names generalizing s with
  | nil => exact ⟨[], [], .refl s, fun _ hd => absurd hd List.not_mem_nil⟩
  | cons name rest ih =>
      obtain ⟨found, shells, hgrows, hwanted⟩ := grows_need env s name
      obtain ⟨found', shells', hgrows', hwanted'⟩ := ih (s.need env name)
      refine ⟨found ++ found', shells ++ shells', hgrows.trans hgrows', ?_⟩
      intro d hd
      rcases List.mem_append.mp hd with hfirst | hrest
      · have h := hwanted d hfirst
        exact { h with named := List.mem_cons.mpr (Or.inl (List.mem_singleton.mp h.named)) }
      · have h := hwanted' d hrest
        -- what has no declaration later has none now
        refine { h with named := List.mem_cons_of_mem _ h.named, undeclared := ?_ }
        refine Bool.eq_false_iff.mpr fun hold => ?_
        have hmoves : Moves env s (s.need env name) := moves_need s name
        have hlater := Pass.contains_of_moves hmoves hold
        exact absurd (h.undeclared.symm.trans hlater) Bool.false_ne_true

/-- When every identity has a declaration or can have none, seeing to them only reports the latter. -/
theorem needAll_of_settled
    (h : ∀ x ∈ names, s.table.contains x = true ∨ env.isDeclarable x = false) :
    s.needAll env names = { s with
      warnings := s.warnings ++ (names.filter fun x => !s.table.contains x).map .unresolved } := by
  induction names generalizing s with
  | nil => simp [needAll]
  | cons name rest ih =>
      obtain ⟨hname, hrest⟩ := List.forall_mem_cons.mp h
      have hstep : s.needAll env (name :: rest) = (s.need env name).needAll env rest := rfl
      rcases need_cases env s name with ⟨hold, heq⟩ | ⟨hnew, _, heq⟩ | ⟨d, _, rfl, hdecl, hacc, _⟩
      · rw [hstep, heq, ih hrest, List.filter_cons, hold]
        rfl
      · rw [hstep, heq, ih ?_, List.filter_cons, hnew]
        · simp
        · exact hrest
      · rcases hname with hold | hno
        · exact absurd ((accepts_iff.mp hacc).2.symm.trans hold) Bool.false_ne_true
        · exact absurd (hno.symm.trans hdecl) Bool.false_ne_true

/-! ## References -/

/-- A type that a reference asks for: it is known, the reference mentions it, no target was chosen for
it, it is no annotation, and it has no declaration yet. -/
structure Asked (env : Env) (s : Conversion) (r : TypeRef) (d : Descriptor) : Prop where
  known : env.index.find? d.name = some d
  mentioned : d.name ∈ r.identities
  free : env.custom.contains d.name = false
  kind : d.kind ≠ .annotationType
  undeclared : s.table.contains d.name = false

theorem Wanted.asked (h : s.Wanted env (env.needs r) d) : s.Asked env r d where
  known := h.known
  mentioned := (Env.mem_needs r h.named).1
  free := not_custom_of_isDeclarable h.declarable
  kind := by
    have hdecl := h.declarable
    rw [Env.isDeclarable_eq, Index.offers, h.known] at hdecl
    simpa using (Bool.and_eq_true_iff.mp hdecl).1
  undeclared := h.undeclared

/-- What resolving a reference adds to a state: the shells of some types that the reference asks for. -/
structure Extends (env : Env) (r : TypeRef) (s t : Conversion) (found : List Descriptor)
    (shells : List Declaration) : Prop extends Grows env s t found shells where
  asked : ∀ d ∈ found, s.Asked env r d
  /-- A module keeps its place, its path and its names. -/
  modules : ∀ (i : Nat) (m : Module), s.modules.modules[i]? = some m →
    ∃ m', t.modules.modules[i]? = some m' ∧ m'.path = m.path ∧ m.names.entries ⊆ m'.names.entries
  /-- The names that a module gets are those of the new shells in it. -/
  entries : ∀ (i : Nat) (m' : Module), t.modules.modules[i]? = some m' → ∀ name source : String,
    (name, source) ∈ m'.names.entries ↔
      (∃ m, s.modules.modules[i]? = some m ∧ (name, source) ∈ m.names.entries) ∨
      ∃ e ∈ shells, e.module = m'.path ∧ e.name = name ∧ e.source = source

/-- Modules that are owned before and after tell the new shells by their new names. -/
theorem Grows.entries_iff (h : Grows env s t found shells) (hs : s.graph.Owned) (ht : t.graph.Owned)
    {i : Nat} {m' : Module} (hm' : t.modules.modules[i]? = some m') {source : String} :
    (name, source) ∈ m'.names.entries ↔
      (∃ m, s.modules.modules[i]? = some m ∧ (name, source) ∈ m.names.entries) ∨
      ∃ e ∈ shells, e.module = m'.path ∧ e.name = name ∧ e.source = source := by
  have hhere : t.modules.paths[i]? = some m'.path := by
    rw [ModuleTree.getElem?_paths, hm']
    rfl
  have hdecls : t.graph.table.declarations = s.table.declarations ++ shells := h.declarations
  rw [ht.mem_entries_iff (List.mem_of_getElem? hm'), hdecls]
  constructor
  · rintro ⟨e, he, rfl, rfl, hmodule⟩
    rcases List.mem_append.mp he with hold | hnew
    · obtain ⟨m, hm, hpath, hentry⟩ := hs.owner e hold
      obtain ⟨j, hj⟩ := List.mem_iff_getElem?.mp hm
      -- paths are distinct, so the old module of that path is at the same place
      have hsame : t.modules.paths[j]? = some m'.path := by
        rw [← hmodule, ← hpath]
        exact h.path_of_getElem? hj
      obtain ⟨hlt, _⟩ := List.getElem?_eq_some_iff.mp hsame
      obtain rfl : j = i := (List.getElem?_inj hlt ht.paths).mp (hsame.trans hhere.symm)
      exact Or.inl ⟨m, hj, hentry⟩
    · exact Or.inr ⟨e, hnew, hmodule, rfl, rfl⟩
  · rintro (⟨m, hm, hentry⟩ | ⟨e, he, hmodule, rfl, rfl⟩)
    · obtain ⟨e, he, hsource, hname, hmodule⟩ :=
        (hs.mem_entries_iff (List.mem_of_getElem? hm)).mp hentry
      have hpath : m.path = m'.path := Option.some.inj ((h.path_of_getElem? hm).symm.trans hhere)
      exact ⟨e, List.mem_append_left _ he, hsource, hname, hmodule.trans hpath⟩
    · exact ⟨e, List.mem_append_right _ he, rfl, rfl, hmodule⟩

theorem Grows.extends (h : Grows env s t found shells) (hs : s.graph.Owned) (ht : t.graph.Owned)
    (hasked : ∀ d ∈ found, s.Asked env r d) : Extends env r s t found shells where
  toGrows := h
  asked := hasked
  modules := by
    intro i m hm
    have hpath := h.path_of_getElem? hm
    rw [ModuleTree.getElem?_paths, Option.map_eq_some_iff] at hpath
    obtain ⟨m', hm', hsame⟩ := hpath
    refine ⟨m', hm', hsame, fun entry hentry => ?_⟩
    exact (h.entries_iff hs ht hm').mpr (Or.inl ⟨m, hm, hentry⟩)
  entries := fun _ _ hm' _ _ => h.entries_iff hs ht hm'

/-- Resolving a reference once more gives the same target. Nothing is declared, and each type without a
target is reported as before. -/
theorem resolve_resolve (env : Env) (s : Conversion) (r : TypeRef) :
    (s.resolve env r).2.resolve env r = ((s.resolve env r).1,
      { (s.resolve env r).2 with
        warnings := (s.resolve env r).2.warnings ++
          ((env.needs r).filter fun x => !(s.resolve env r).2.table.contains x).map .unresolved }) := by
  refine Prod.ext ?_ ?_
  · show env.target ((s.needAll env (env.needs r)).isDeclared env) r = env.target (s.isDeclared env) r
    rw [isDeclared_needAll]
  · refine needAll_of_settled fun x hx => ?_
    cases hdecl : env.isDeclarable x with
    | true => exact Or.inl (contains_needAll_iff.mpr (Or.inr ⟨hx, hdecl⟩))
    | false => exact Or.inr rfl

/-- After any calls, resolving a reference adds to the state the shells of types that the reference asks
for, and nothing else, whether it is done at once or step by step. Done once more it leaves the table, the
modules and what waits as they are, and only reports again what has no declaration. -/
theorem resolve_extends (env : Env) (calls : List Call) (r : TypeRef) :
    (∃ found shells, Extends env r (reached env calls) ((reached env calls).resolve env r).2
      found shells) ∧
    (reached env calls).visit env r = (reached env calls).resolve env r ∧
    ∃ unresolved ⊆ r.identities, ((reached env calls).resolve env r).2.resolve env r =
      (((reached env calls).resolve env r).1, { ((reached env calls).resolve env r).2 with
        warnings := ((reached env calls).resolve env r).2.warnings ++ unresolved.map .unresolved }) := by
  have howned : (reached env calls).graph.Owned := owned_of_moves (moves_reached env calls) owned_empty
  obtain ⟨found, shells, hgrows, hwanted⟩ := grows_needAll env (reached env calls) (env.needs r)
  refine ⟨⟨found, shells, ?_⟩, visit_eq_resolve r _, _, ?_, resolve_resolve env _ r⟩
  · exact hgrows.extends howned (owned_of_moves (moves_needAll _ _) howned) fun d hd =>
      (hwanted d hd).asked
  · intro x hx
    exact (Env.mem_needs r (List.mem_filter.mp hx).1).1

end Conversion

end TypeGraph
