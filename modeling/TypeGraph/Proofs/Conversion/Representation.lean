import Mathlib.Data.Set.Function
import TypeGraph.Proofs.Conversion.Bodies
import TypeGraph.Proofs.Printed.Emission

/-!
# What a conversion represents

A conversion can be driven by single operations, on any types and in any order. Whatever they are, its
modules and its table stay two views of the same declarations (`Graph.Represented`): the place of a
declaration and its source tell each other, the names in the modules are those of the declarations in
them, and all declarations are printed once. No body refers to a declaration that is not there, unless
it was handed such a reference (`Conversion.Linked`).
-/

namespace TypeGraph

/-! ## Places in the table -/

namespace Table

/-- Sources and places belong to each other one to one. -/
theorem bijOn_idOf? {t : Table} (hn : t.sources.Nodup) : Set.BijOn t.idOf?
    {source | t.contains source = true} {id | ∃ n < t.size, id = some n} := by
  have hplace : ∀ source, t.contains source = true → ∃ n < t.size, t.idOf? source = some n := by
    intro source hsource
    obtain ⟨d, hd, hds⟩ := contains_iff.mp hsource
    obtain ⟨n, hlt, hget⟩ := List.getElem_of_mem hd
    refine ⟨n, hlt, (idOf?_eq_some_iff hn).mpr ⟨d, ?_, hds⟩⟩
    rw [List.getElem?_eq_getElem hlt, hget]
  refine ⟨hplace, ?_, ?_⟩
  · intro source hsource source' _ hsame
    obtain ⟨n, _, hid⟩ := hplace source hsource
    obtain ⟨d, hd, rfl⟩ := (idOf?_eq_some_iff hn).mp hid
    obtain ⟨d', hd', rfl⟩ := (idOf?_eq_some_iff hn).mp (hsame.symm.trans hid)
    rw [Option.some.inj (hd.symm.trans hd')]
  · rintro _ ⟨n, hlt, rfl⟩
    refine ⟨t.declarations[n].source, contains_of_mem (List.getElem_mem hlt), ?_⟩
    exact (idOf?_eq_some_iff hn).mpr ⟨_, List.getElem?_eq_getElem hlt, rfl⟩

end Table

/-! ## What holds of modules and table -/

/-- The modules and the table of a graph are two views of the same declarations. -/
structure Graph.Represented (g : Graph) : Prop where
  /-- Sources and places in the table belong to each other one to one. -/
  ids : Set.BijOn g.table.idOf? {source | g.table.contains source = true}
    {id | ∃ n < g.table.size, id = some n}
  /-- The declaration at the place of a source is the one for that source. -/
  idOf?_eq_some_iff : ∀ source id, g.table.idOf? source = some id ↔
    ∃ d, g.table.declarations[id]? = some d ∧ d.source = source
  /-- A declaration is in one module. -/
  module : ∀ d ∈ g.table.declarations, ∃! m, m ∈ g.modules.modules ∧ m.path = d.module
  /-- The entries of a module are those of its declarations, each under its own name. -/
  entry_iff : ∀ m ∈ g.modules.modules, ∀ name source, (name, source) ∈ m.names.entries ↔
    ∃ d, g.table.find? source = some d ∧ d.module = m.path ∧ d.name = name
  /-- Names are distinct within a module. -/
  names : ∀ d ∈ g.table.declarations, ∀ e ∈ g.table.declarations, d.module = e.module →
    d.name = e.name → d = e
  /-- A file is the text of a module: its imports and, one after the other, its declarations. -/
  files : Printed.files g = (Printed.printedModules g).map fun m =>
    ⟨m.path.file, Printed.header ++ Printed.importBlock (Printed.boundIn g m) ++
      String.join ((g.declarationsOf m).map fun d =>
        "\n" ++ Printed.declaration (Printed.namingOf g m) d)⟩
  /-- The printed modules hold every declaration once, -/
  printed : ((Printed.printedModules g).flatMap g.declarationsOf).Perm g.table.declarations
  /-- and each in its own module. -/
  placed : ∀ m ∈ Printed.printedModules g, ∀ d ∈ g.declarationsOf m, d.module = m.path

theorem Graph.Owned.represented {g : Graph} (h : g.Owned) : g.Represented where
  ids := Table.bijOn_idOf? h.sources
  idOf?_eq_some_iff := fun _ _ => Table.idOf?_eq_some_iff h.sources
  module := by
    intro d hd
    obtain ⟨m, hm, hpath, _⟩ := h.owner d hd
    refine ⟨m, ⟨hm, hpath⟩, ?_⟩
    rintro o ⟨ho, hopath⟩
    exact List.inj_on_of_nodup_map h.paths ho hm (hopath.trans hpath.symm)
  entry_iff := by
    intro m hm name source
    constructor
    · intro hentry
      obtain ⟨d, hd, rfl, hname, hmodule⟩ := h.entry m hm name source hentry
      exact ⟨d, Table.find?_of_mem h.sources hd, hmodule, hname⟩
    · rintro ⟨d, hfind, hmodule, rfl⟩
      obtain ⟨hd, rfl⟩ := Table.mem_of_find? hfind
      obtain ⟨o, ho, hpath, hentry⟩ := h.owner d hd
      obtain rfl : o = m := List.inj_on_of_nodup_map h.paths ho hm (hpath.trans hmodule)
      exact hentry
  names := by
    intro d hd e he hmodule hname
    obtain ⟨m, hm, hpath, hentry⟩ := h.owner d hd
    obtain ⟨o, ho, hopath, hentry'⟩ := h.owner e he
    obtain rfl : m = o := List.inj_on_of_nodup_map h.paths hm ho
      (hpath.trans (hmodule.trans hopath.symm))
    rw [hname] at hentry
    exact Table.eq_of_source_eq h.sources hd he (NameMap.eq_of_mem_entries hentry hentry')
  files := rfl
  printed := Printed.printed_perm h
  placed := fun _ hm _ hd =>
    ((h.mem_declarationsOf_iff (Printed.mem_printedModules_iff.mp hm).1).mp hd).2

namespace Conversion

variable {env : Env} {given : String → Prop} {s t : Conversion} {source : String}

/-! ## Single operations -/

/-- An operation on a conversion. -/
inductive Operation where
  /-- Asks for the module of a type. -/
  | place (d : Descriptor)
  | register (d : Descriptor) (shell : Body)
  | resolve (t : TypeRef)
  /-- Takes the type that waits longest. -/
  | take
  | prepare (c : Converter) (d : Descriptor)
  | convert (strategy : Nullability) (c : Converter) (d : Descriptor)

/-- The types that an operation is handed: those of a shell, and the wrapper of results. -/
def Operation.types : Operation → List TypeExpr
  | .register _ shell => shell.types
  | .convert _ c _ => c.wrapper?.toList
  | .place _ | .resolve _ | .take | .prepare _ _ => []

/-- The state after an operation. -/
def perform (env : Env) (s : Conversion) : Operation → Conversion
  | .place d => s.place env d
  | .register d shell => s.register env d shell
  | .resolve t => (s.resolve env t).2
  | .take => match s.takePending? with
    | some (_, t) => t
    | none => s
  | .prepare c d => s.prepare env c d
  | .convert strategy c d => s.convert env strategy c d

/-- The state after some operations, from the beginning. -/
def after (env : Env) (ops : List Operation) : Conversion := ops.foldl (perform env) {}

theorem moves_perform (s : Conversion) (op : Operation) : Moves env s (s.perform env op) := by
  cases op with
  | place d => exact .single (.place s d)
  | register d shell => exact moves_register s d shell
  | resolve t => exact moves_needAll s _
  | take =>
      rw [perform]
      split
      · rename_i htake
        exact moves_takePending htake
      · exact .refl
  | prepare c d => exact moves_register s d c.shell
  | convert strategy c d => exact moves_convert s c d

theorem moves_performs (ops : List Operation) (s : Conversion) :
    Moves env s (ops.foldl (perform env) s) := by
  induction ops generalizing s with
  | nil => exact .refl
  | cons op rest ih => exact (moves_perform s op).trans (ih _)

/-! ## References -/

/-- Whatever bodies refer to has a declaration, unless it was handed in. -/
def Linked (given : String → Prop) (s : Conversion) : Prop :=
  ∀ e ∈ s.table.declarations, ∀ t ∈ e.body.types, ∀ source ∈ t.sources,
    s.table.contains source = true ∨ given source

/-- More declarations are linked when the new ones are. -/
theorem Linked.extend (h : s.Linked given)
    (hmore : ∀ x, s.table.contains x = true → t.table.contains x = true)
    (hnew : ∀ e ∈ t.table.declarations, (∃ o ∈ s.table.declarations, e.body = o.body) ∨
      ∀ u ∈ e.body.types, ∀ source ∈ u.sources, t.table.contains source = true ∨ given source) :
    t.Linked given := by
  intro e he u hu source hsource
  rcases hnew e he with ⟨o, ho, hbody⟩ | hlinked
  · exact (h o ho u (hbody ▸ hu) source hsource).imp_left (hmore source)
  · exact hlinked u hu source hsource

theorem Linked.register {d : Descriptor} {shell : Body} (h : s.Linked given)
    (hshell : ∀ t ∈ shell.types, ∀ source ∈ t.sources, given source) :
    (s.register env d shell).Linked given := by
  cases hacc : s.accepts env d with
  | false =>
      rw [register_of_not_accepts shell hacc]
      exact h
  | true =>
      refine h.extend (fun x => Pass.contains_of_moves (moves_register s d shell)) ?_
      rw [register_of_accepts shell hacc]
      intro e he
      rcases List.mem_append.mp he with hold | hlast
      · exact Or.inl ⟨e, hold, rfl⟩
      · obtain rfl := List.mem_singleton.mp hlast
        exact Or.inr fun t ht source hsource => Or.inr (hshell t ht source hsource)

theorem Linked.need (h : s.Linked given) (name : String) : (s.need env name).Linked given := by
  rcases need_cases env s name with ⟨_, heq⟩ | ⟨_, _, heq⟩ | ⟨d, _, _, _, _, heq⟩
  · rw [heq]
    exact h
  · rw [heq]
    exact h
  · have hshell : (demandShell d).types = [] := by
      unfold demandShell
      split <;> rfl
    have hregistered : (s.register env d (demandShell d)).Linked given :=
      h.register (by simp [hshell])
    rw [heq]
    exact hregistered

theorem Linked.needAll (h : s.Linked given) (names : List String) :
    (s.needAll env names).Linked given := by
  induction names generalizing s with
  | nil => exact h
  | cons name rest ih => exact ih (h.need name)

/-- A target refers to what is declared once its needs are seen to, or to what a chosen target refers
to. -/
theorem contains_of_target {names : List String} {r : TypeRef} (hneeds : env.needs r ⊆ names)
    (hsource : source ∈ (s.target env r).sources) :
    (s.needAll env names).table.contains source = true ∨ env.custom.Mentions source := by
  rcases Env.needs_of_mem_sources r hsource with hcustom | ⟨hmem, hdeclared⟩
  · exact Or.inr hcustom
  · left
    rcases Bool.or_eq_true_iff.mp hdeclared with hold | hdecl
    · exact Pass.contains_of_moves (moves_needAll s names) hold
    · exact Pass.contains_needAll s (hneeds hmem) hdecl

theorem Linked.fill {body : Body} (h : s.Linked given)
    (hbody : ∀ t ∈ body.types, ∀ source ∈ t.sources,
      s.table.contains source = true ∨ given source) :
    Linked given { s with table := s.table.populate source body } := by
  have hsame : ∀ x, (s.table.populate source body).contains x = s.table.contains x :=
    fun x => contains_populate s.table source x body
  refine h.extend (fun x hx => (hsame x).trans hx) ?_
  intro e he
  obtain ⟨o, ho, rfl⟩ := Table.mem_populate_iff.mp he
  split
  · rw [Table.filled]
    split
    · right
      intro t ht x hx
      exact (hbody t ht x hx).imp_left (hsame x).trans
    · exact Or.inl ⟨o, ho, rfl⟩
  · exact Or.inl ⟨o, ho, rfl⟩

theorem Linked.convert {strategy : Nullability} {c : Converter} {d : Descriptor}
    (h : s.Linked given) (hcustom : ∀ x, env.custom.Mentions x → given x)
    (hwrapper : ∀ w, c.wrapper? = some w → ∀ source ∈ w.sources, given source) :
    (s.convert env strategy c d).Linked given := by
  rcases convert_cases env strategy s c d with ⟨_, _, heq⟩ | ⟨_, heq⟩
  · rw [heq]
    set names := (c.references d).flatMap env.needs
    -- what the body refers to is declared before it is filled in
    have hbody : ∀ t ∈ (c.body (s.target env) strategy d).types, ∀ source ∈ t.sources,
        (s.needAll env names).table.contains source = true ∨ given source := by
      intro t ht source hsource
      obtain ⟨r, hr, hcases⟩ := Converter.mem_types_body ht
      have htarget : source ∈ (s.target env r).sources →
          (s.needAll env names).table.contains source = true ∨ given source := fun hmem =>
        (contains_of_target (fun _ hy => List.mem_flatMap.mpr ⟨r, hr, hy⟩) hmem).imp_right (hcustom source)
      rcases hcases with rfl | ⟨w, hw, rfl⟩
      · exact htarget hsource
      · rw [TypeExpr.sources_apply, List.mem_append] at hsource
        rcases hsource with hmem | hmem
        · exact Or.inr (hwrapper w hw source hmem)
        · exact htarget (by simpa using hmem)
    have hneeded : (s.needAll env names).Linked given := h.needAll names
    exact hneeded.fill hbody
  · rw [heq]
    exact h

theorem Linked.perform {op : Operation} (h : s.Linked given)
    (hcustom : ∀ x, env.custom.Mentions x → given x)
    (hgiven : ∀ t ∈ op.types, ∀ source ∈ t.sources, given source) :
    (s.perform env op).Linked given := by
  cases op with
  | place d => exact h
  | register d shell => exact h.register hgiven
  | resolve t => exact h.needAll _
  | take =>
      rw [Conversion.perform]
      split
      · rename_i htake
        rw [(takePending?_eq_some htake).2]
        exact h
      · exact h
  | prepare c d =>
      refine h.register ?_
      cases c <;> simp [Converter.shell, Body.emptyEnum, Body.emptyInterface, Body.types]
  | convert strategy c d =>
      exact h.convert hcustom fun w hw => hgiven w (by simp [Operation.types, hw])

theorem Linked.performs {ops : List Operation} (h : s.Linked given)
    (hcustom : ∀ x, env.custom.Mentions x → given x)
    (hgiven : ∀ op ∈ ops, ∀ t ∈ op.types, ∀ source ∈ t.sources, given source) :
    (ops.foldl (Conversion.perform env) s).Linked given := by
  induction ops generalizing s with
  | nil => exact h
  | cons op rest ih =>
      exact ih (h.perform hcustom (hgiven op (by simp)))
        fun op hop => hgiven op (List.mem_cons_of_mem _ hop)

/-- What a chosen target refers to, or a type that some operations are handed. -/
def Given (env : Env) (ops : List Operation) (source : String) : Prop :=
  env.custom.Mentions source ∨ ∃ op ∈ ops, ∃ t ∈ op.types, source ∈ t.sources

/-- After any operations the modules and the table are two views of the same declarations. Bodies refer
only to these, and so do the targets of references, except for what was handed in. -/
theorem represented_after (env : Env) (ops : List Operation) :
    (after env ops).graph.Represented ∧ (after env ops).Linked (Given env ops) ∧
      ∀ t : TypeRef, ∀ source ∈ ((after env ops).resolve env t).1.sources,
        ((after env ops).resolve env t).2.table.contains source = true ∨
          env.custom.Mentions source := by
  refine ⟨?_, ?_, ?_⟩
  · exact (owned_of_moves (moves_performs ops {}) owned_empty).represented
  · have hempty : Linked (Given env ops) {} := fun _ he => absurd he List.not_mem_nil
    exact hempty.performs (fun _ => Or.inl) fun op hop t ht source hsource =>
      Or.inr ⟨op, hop, t, ht, hsource⟩
  · exact fun t source hsource => contains_of_target (fun _ hy => hy) hsource

end Conversion

end TypeGraph
