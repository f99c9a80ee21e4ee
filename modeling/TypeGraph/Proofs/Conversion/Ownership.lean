import Mathlib.Tactic.Set
import TypeGraph.Proofs.Conversion.Moves
import TypeGraph.Proofs.Target.Modules

/-!
# Who owns which name

The modules and the table of a conversion are two views of the same declarations: the names in a module
are exactly the names of its declarations, each under its own source (`Graph.Owned`). Every change of
a conversion keeps this, so it holds in every state and of the graph of every run (`owned_of_run`). That
names are distinct within a module is then a property of the map of names alone.
-/

namespace TypeGraph

/-- The names in the modules are those of the declarations in them. -/
structure Graph.Owned (g : Graph) : Prop where
  sources : g.table.sources.Nodup
  paths : g.modules.paths.Nodup
  /-- A name in a module is that of a declaration of the module. -/
  entry : ∀ m ∈ g.modules.modules, ∀ name source, (name, source) ∈ m.names.entries →
    ∃ d ∈ g.table.declarations, d.source = source ∧ d.name = name ∧ d.module = m.path
  /-- A declaration is entered in its module. -/
  owner : ∀ d ∈ g.table.declarations,
    ∃ m ∈ g.modules.modules, m.path = d.module ∧ (d.name, d.source) ∈ m.names.entries

namespace Conversion

variable {env : Env}

theorem owned_empty : (graph {}).Owned where
  sources := by simp [graph, Table.sources]
  paths := by simp [graph, ModuleTree.paths]
  entry := by simp [graph]
  owner := by simp [graph]

/-- Creating modules keeps ownership: the new ones have no names. -/
theorem owned_place {s : Conversion} (d : Descriptor) (h : s.graph.Owned) :
    (s.place env d).graph.Owned where
  sources := h.sources
  paths := ModuleTree.nodup_ensure _ h.paths
  entry := by
    intro m hm name source hentry
    rcases ModuleTree.mem_ensure hm with hold | hempty
    · exact h.entry m hold name source hentry
    · rw [hempty] at hentry
      exact absurd hentry List.not_mem_nil
  owner := by
    intro e he
    obtain ⟨m, hm, hpath, hentry⟩ := h.owner e he
    exact ⟨m, ModuleTree.mem_ensure_of_mem _ hm, hpath, hentry⟩

/-- Filling in a declaration keeps ownership: no name, source or module changes. -/
theorem owned_fill {s : Conversion} (source : String) (body : Body) (h : s.graph.Owned) :
    (graph { s with table := s.table.populate source body }).Owned where
  sources := by
    rw [graph, Table.sources_populate]
    exact h.sources
  paths := h.paths
  entry := by
    intro m hm name key hentry
    obtain ⟨d, hd, hsource, hname, hmodule⟩ := h.entry m hm name key hentry
    obtain ⟨e, he, hs, hn, hp⟩ := Table.exists_mem_populate source body hd
    exact ⟨e, he, hs.trans hsource, hn.trans hname, hp.trans hmodule⟩
  owner := by
    intro e he
    obtain ⟨d, hd, hsource, hname, hmodule⟩ := Table.exists_of_mem_populate he
    obtain ⟨m, hm, hpath, hentry⟩ := h.owner d hd
    exact ⟨m, hm, hpath.trans hmodule, hname ▸ hsource ▸ hentry⟩

/-- Registering a shell keeps ownership: the name that is entered was free in the module. -/
theorem owned_register {s : Conversion} {d : Descriptor} (shell : Body)
    (hacc : s.accepts env d = true) (h : s.graph.Owned) : (s.register env d shell).graph.Owned := by
  have hplaced : (s.place env d).graph.Owned := owned_place d h
  have hdecls := register_of_accepts shell hacc
  set path := env.placement.path d with hpath
  set tree := s.modules.ensure path with htree
  set name := tree.freeName path (declarationName d.simpleName) with hname
  have hmodules : (s.register env d shell).modules = tree.enter path name d.name := by
    simp only [register, hacc, if_true]
    rfl
  obtain ⟨own, hown, hownPath⟩ := ModuleTree.contains_iff.mp
    (ModuleTree.contains_ensure s.modules (env.placement.path_ne_nil d))
  -- the name is not taken in the module, so entering it replaces no other
  have hfree : ∀ m ∈ tree.modules, m.path = path → name ∉ m.names.keys := by
    intro m hm hmpath
    rw [hname, ← hmpath]
    exact ModuleTree.freeName_not_mem hplaced.paths hm _
  refine ⟨?_, ?_, ?_, ?_⟩
  · exact nodup_sources_register shell hacc h.sources
  · show (s.register env d shell).modules.paths.Nodup
    rw [hmodules, ModuleTree.paths_enter]
    exact hplaced.paths
  · show ∀ m ∈ (s.register env d shell).modules.modules, ∀ n source, (n, source) ∈ m.names.entries →
      ∃ e ∈ (s.register env d shell).table.declarations, _
    rw [hmodules, hdecls]
    intro m hm n source hentry
    obtain ⟨o, ho, rfl⟩ := ModuleTree.mem_enter_iff.mp hm
    have hold : (n, source) ∈ o.names.entries → ∃ e ∈ s.table.declarations, e.source = source ∧
        e.name = n ∧ e.module = o.path := hplaced.entry o ho n source
    by_cases hsame : o.path = path
    · rw [if_pos hsame] at hentry ⊢
      rcases NameMap.mem_entries_insert_iff.mp hentry with ⟨rfl, rfl⟩ | ⟨_, hmem⟩
      · exact ⟨_, List.mem_append_right _ (List.mem_singleton.mpr rfl), rfl, rfl, hsame.symm⟩
      · obtain ⟨e, he, hrest⟩ := hold hmem
        exact ⟨e, List.mem_append_left _ he, hrest⟩
    · rw [if_neg hsame] at hentry ⊢
      obtain ⟨e, he, hrest⟩ := hold hentry
      exact ⟨e, List.mem_append_left _ he, hrest⟩
  · show ∀ e ∈ (s.register env d shell).table.declarations,
      ∃ m ∈ (s.register env d shell).modules.modules,
        m.path = e.module ∧ (e.name, e.source) ∈ m.names.entries
    rw [hmodules, hdecls]
    intro e he
    rcases List.mem_append.mp he with hold | hnew
    · obtain ⟨o, ho, hopath, hentry⟩ := hplaced.owner e hold
      refine ⟨_, ModuleTree.mem_enter_iff.mpr ⟨o, ho, rfl⟩, ?_⟩
      by_cases hsame : o.path = path
      · rw [if_pos hsame]
        refine ⟨hopath, NameMap.mem_entries_insert_iff.mpr (Or.inr ⟨?_, hentry⟩)⟩
        intro heq
        exact hfree o ho hsame (heq ▸ NameMap.mem_keys_iff.mpr ⟨e.source, hentry⟩)
      · rw [if_neg hsame]
        exact ⟨hopath, hentry⟩
    · obtain rfl := List.mem_singleton.mp hnew
      refine ⟨_, ModuleTree.mem_enter_iff.mpr ⟨own, hown, rfl⟩, ?_⟩
      rw [if_pos hownPath]
      exact ⟨hownPath, NameMap.mem_entries_insert_iff.mpr (Or.inl ⟨rfl, rfl⟩)⟩

/-- Every change of a conversion keeps ownership. -/
theorem owned_of_move {s t : Conversion} (h : Move env s t) (hs : s.graph.Owned) :
    t.graph.Owned := by
  cases h with
  | place d => exact owned_place d hs
  | register d shell hacc => exact owned_register shell hacc hs
  | wait d => exact hs
  | take => exact hs
  | warn w => exact hs
  | fill source body => exact owned_fill source body hs

theorem owned_of_moves {s t : Conversion} (h : Moves env s t) (hs : s.graph.Owned) :
    t.graph.Owned :=
  keep_of_moves (I := fun u => u.graph.Owned) (fun _ _ => owned_of_move) h hs

end Conversion

/-- In the graph of a run the names in the modules are those of the declarations in them. -/
theorem Setup.owned_of_run {s : Setup} {discovery : Discovery} {outcome : Outcome}
    (h : s.run discovery = .ok outcome) : outcome.graph.Owned := by
  obtain ⟨start, enums, models, final, hpasses, hgraph⟩ := exists_passes h
  rw [hgraph]
  exact Conversion.owned_of_moves hpasses.moves Conversion.owned_empty

/-! ## The declarations of a module -/

namespace Graph.Owned

variable {g : Graph} {m : Module} {d : Declaration}

/-- A module lists its declarations, and no others. -/
theorem mem_declarationsOf_iff (h : g.Owned) (hm : m ∈ g.modules.modules) :
    d ∈ g.declarationsOf m ↔ d ∈ g.table.declarations ∧ d.module = m.path := by
  rw [declarationsOf, List.mem_filterMap]
  constructor
  · rintro ⟨source, hvalue, hfind⟩
    obtain ⟨name, hentry⟩ := NameMap.mem_values_iff.mp hvalue
    obtain ⟨e, he, hsource, _, hmodule⟩ := h.entry m hm name source hentry
    have hsame : g.table.find? source = some e := by
      rw [← hsource]
      exact Table.find?_of_mem h.sources he
    obtain rfl : e = d := Option.some.inj (hsame.symm.trans hfind)
    exact ⟨he, hmodule⟩
  · rintro ⟨hd, hmodule⟩
    -- paths are distinct, so the module that has the name of the declaration is this one
    obtain ⟨o, ho, hopath, hentry⟩ := h.owner d hd
    have hsame : o = m := List.inj_on_of_nodup_map h.paths ho hm (hopath.trans hmodule)
    refine ⟨d.source, ?_, Table.find?_of_mem h.sources hd⟩
    rw [← hsame]
    exact NameMap.mem_values_iff.mpr ⟨d.name, hentry⟩

/-- The declarations of a module are called by the names that the module exports, in order. -/
theorem names_declarationsOf (h : g.Owned) (hm : m ∈ g.modules.modules) :
    (g.declarationsOf m).map (·.name) = m.names.keys := by
  -- told of any part of the entries, so that the induction can take them one by one
  have hentries : ∀ entries : List (String × String), (∀ entry ∈ entries, entry ∈ m.names.entries) →
      ((entries.map (·.2)).filterMap g.table.find?).map (·.name) = entries.map (·.1) := by
    intro entries
    induction entries with
    | nil => intro _; rfl
    | cons entry rest ih =>
        intro hall
        obtain ⟨name, source⟩ := entry
        obtain ⟨e, he, hsource, hname, _⟩ := h.entry m hm name source (hall _ (by simp))
        have hfind : g.table.find? source = some e := by
          rw [← hsource]
          exact Table.find?_of_mem h.sources he
        rw [List.map_cons, List.filterMap_cons, hfind, List.map_cons, List.map_cons, hname]
        congr 1
        exact ih fun entry hentry => hall entry (List.mem_cons_of_mem _ hentry)
  exact hentries m.names.entries fun _ hentry => hentry

/-- The names of the declarations of a module are distinct. -/
theorem nodup_names (h : g.Owned) (hm : m ∈ g.modules.modules) :
    ((g.declarationsOf m).map (·.name)).Nodup := by
  rw [h.names_declarationsOf hm]
  exact m.names.nodup_keys

end Graph.Owned

end TypeGraph
