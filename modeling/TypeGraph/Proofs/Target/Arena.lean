import TypeGraph.Proofs.Target.Modules
import TypeGraph.Proofs.Target.Table
import TypeGraph.Target.Arena

/-!
# Numbers and sources

Operations by number do on the declarations what operations by source do on the table, as long as the
register tells their places (`Arena.Agrees`): registering (`Arena.register_spec`), and changing one
declaration (`Arena.set_eq_modify`). So the register tells them after any operations
(`Arena.agrees_of_performAll?`).
-/

namespace TypeGraph.Arena

variable {a a' : Arena} {d shell : Declaration} {source name : String} {id : Nat} {body : Body}

/-- The register tells the places of the declarations, and every source type has one at most. -/
structure Agrees (a : Arena) : Prop where
  sources : a.table.sources.Nodup
  lookup : ∀ source, a.lookup? source = a.table.idOf? source

theorem agrees_empty : Agrees {} :=
  ⟨List.nodup_nil, fun _ => rfl⟩

/-- A source type has a number when it has a declaration. -/
theorem Agrees.lookup?_eq_some_iff (h : a.Agrees) :
    a.lookup? source = some id ↔ ∃ d, a.get? id = some d ∧ d.source = source := by
  rw [h.lookup, Table.idOf?_eq_some_iff h.sources]
  rfl

theorem Agrees.lookup?_eq_none_iff (h : a.Agrees) :
    a.lookup? source = none ↔ a.table.contains source = false := by
  rw [h.lookup, Table.idOf?, List.idxOf?_eq_none_iff, Table.mem_sources_iff,
    Table.contains_eq_false_iff]
  simp

/-! ## Registration -/

/-- Registering by number is registering by source, and answers with the place of the declaration and
whether there was none. -/
theorem register_spec (h : a.Agrees) (shell : Declaration) :
    (a.register shell).2.table = a.table.register shell ∧ (a.register shell).2.Agrees ∧
      (a.table.register shell).idOf? shell.source = some (a.register shell).1.1 ∧
      (a.register shell).1.2 = !a.table.contains shell.source := by
  cases hlookup : a.lookup? shell.source with
  | some id =>
      have hcontains : a.table.contains shell.source = true := by
        by_contra hnot
        have hnone := h.lookup?_eq_none_iff.mpr (Bool.eq_false_iff.mpr hnot)
        exact absurd (hlookup.symm.trans hnone) (by simp)
      have hsame : a.table.register shell = a.table := if_pos hcontains
      have hstep : a.register shell = ((id, false), a) := by simp [register, hlookup]
      rw [hstep, hsame, ← h.lookup, hcontains]
      exact ⟨rfl, h, hlookup, rfl⟩
  | none =>
      have hcontains := h.lookup?_eq_none_iff.mp hlookup
      have hdeclarations := Table.declarations_register hcontains
      have hn := Table.nodup_register h.sources hcontains
      have hstep : a.register shell = ((a.declarations.length, true),
          { declarations := a.declarations ++ [shell]
            bySource := a.bySource.insert shell.source a.declarations.length }) := by
        simp [register, hlookup]
      have htable : (⟨a.declarations ++ [shell]⟩ : Table) = a.table.register shell :=
        congrArg Table.mk hdeclarations.symm
      have hid : (a.table.register shell).idOf? shell.source = some a.declarations.length := by
        rw [Table.idOf?_eq_some_iff hn, hdeclarations]
        exact ⟨shell, List.getElem?_concat_length, rfl⟩
      rw [hstep, hcontains]
      refine ⟨htable, ⟨?_, ?_⟩, hid, rfl⟩
      · rw [table, htable]
        exact hn
      · intro source
        rw [table, htable, lookup?, NameMap.get?_insert]
        split
        · rename_i hsame
          rw [hsame, hid]
        · rename_i hother
          exact (h.lookup source).trans (Table.idOf?_register hcontains hother).symm

/-! ## Changing a declaration -/

/-- Changing the declaration with a number is changing that of its source. -/
theorem set_eq_modify (h : a.Agrees) (hd : a.get? id = some d) (f : Declaration → Declaration) :
    (⟨a.declarations.set id (f d)⟩ : Table) = a.table.modify d.source f := by
  have hget : a.declarations[id]? = some d := hd
  refine congrArg Table.mk (List.ext_getElem? fun n => ?_)
  rw [List.getElem?_map, List.getElem?_set]
  split
  · rename_i heq
    obtain ⟨hlt, rfl⟩ := List.getElem?_eq_some_iff.mp hget
    simp [← heq, hlt, table]
  · rename_i hother
    cases hn : a.declarations[n]? with
    | none => simp [table, hn]
    | some e =>
        -- another number has a declaration of another source
        have hne : e.source ≠ d.source := by
          intro hsame
          have hlast := (Table.idOf?_eq_some_iff h.sources).mpr ⟨e, hn, hsame⟩
          have hfirst := (Table.idOf?_eq_some_iff h.sources).mpr ⟨d, hget, rfl⟩
          exact hother (Option.some.inj (hfirst.symm.trans hlast))
        simp [table, hn, hne]

/-- A change of one declaration that keeps its source keeps the places. -/
theorem Agrees.modify (h : a.Agrees) (hd : a.get? id = some d) {f : Declaration → Declaration}
    (hf : ∀ d, (f d).source = d.source) :
    Agrees { a with declarations := a.declarations.set id (f d) } := by
  have hsources : (⟨a.declarations.set id (f d)⟩ : Table).sources = a.table.sources := by
    rw [set_eq_modify h hd]
    exact Table.sources_modify hf
  refine ⟨?_, fun source => ?_⟩
  · rw [table, hsources]
    exact h.sources
  · rw [table, Table.idOf?, hsources]
    exact h.lookup source

/-- Filling in by number is filling in by source, and answers whether there was a shell. -/
theorem populate?_spec (h : a.Agrees) (hd : a.get? id = some d) (body : Body) :
    ∃ a', a.populate? id body = some (!a.table.isPopulated d.source, a') ∧
      a'.table = a.table.populate d.source body ∧ a'.Agrees := by
  have hmem : d ∈ a.table.declarations := List.mem_of_getElem? hd
  have hset := set_eq_modify h hd fun d => Table.filled d body
  have hstep : a.table.populate d.source body = ⟨a.declarations.set id (Table.filled d body)⟩ := hset.symm
  cases hp : d.progress with
  | registered =>
      have hshell := Table.isPopulated_eq_false h.sources hmem hp
      have hfilled : Table.filled d body = { d with body, progress := .populated } := by
        simp [Table.filled, hp]
      rw [hfilled] at hstep
      refine ⟨{ a with declarations := a.declarations.set id { d with body, progress := .populated } },
        by simp [populate?, hd, hp, hshell], hstep.symm, ?_⟩
      rw [← hfilled]
      exact h.modify (f := fun d => Table.filled d body) hd fun _ => Table.filled_source
  | populated =>
      have hfull := Table.isPopulated_eq_true hmem hp
      have hfilled : Table.filled d body = d := by simp [Table.filled, hp]
      refine ⟨a, by simp [populate?, hd, hp, hfull], ?_, h⟩
      obtain ⟨hlt, hget⟩ := List.getElem?_eq_some_iff.mp hd
      rw [hstep, hfilled, ← hget, List.set_getElem_self]
      rfl

theorem rename?_spec (h : a.Agrees) (hd : a.get? id = some d) (name : String) :
    ∃ a', a.rename? id name = some a' ∧ a'.table = a.table.rename d.source name ∧ a'.Agrees :=
  ⟨{ a with declarations := a.declarations.set id { d with name } }, by simp [rename?, hd],
    set_eq_modify h hd fun d => { d with name }, h.modify (f := fun d => { d with name }) hd fun _ => rfl⟩

theorem isPopulated?_spec (h : a.Agrees) (hd : a.get? id = some d) :
    a.isPopulated? id = some (a.table.isPopulated d.source) := by
  have hmem : d ∈ a.table.declarations := List.mem_of_getElem? hd
  cases hp : d.progress with
  | registered => simp [isPopulated?, hd, hp, Table.isPopulated_eq_false h.sources hmem hp]
  | populated => simp [isPopulated?, hd, hp, Table.isPopulated_eq_true hmem hp]

/-! ## Operations -/

/-- What an operation by number does to the table, by source. -/
inductive Does (a : Arena) : Operation → Table → Prop
  | register (shell : Declaration) : Does a (.register shell) (a.table.register shell)
  | populate {id : Nat} {d : Declaration} (hd : a.get? id = some d) (body : Body) :
      Does a (.populate id body) (a.table.populate d.source body)
  | rename {id : Nat} {d : Declaration} (hd : a.get? id = some d) (name : String) :
      Does a (.rename id name) (a.table.rename d.source name)

/-- An operation does to the table what it says, and fails only where there is nothing to be done. -/
theorem perform?_spec (h : a.Agrees) (op : Operation) :
    (∃ a', a.perform? op = some a' ∧ a.Does op a'.table ∧ a'.Agrees) ∨
      (a.perform? op = none ∧ ∀ t, ¬ a.Does op t) := by
  cases op with
  | register shell =>
      obtain ⟨htable, hagrees, _⟩ := register_spec h shell
      exact Or.inl ⟨_, rfl, htable ▸ .register shell, hagrees⟩
  | populate id body =>
      cases hd : a.get? id with
      | some d =>
          obtain ⟨a', hstep, htable, hagrees⟩ := populate?_spec h hd body
          exact Or.inl ⟨a', by simp [perform?, hstep], htable ▸ .populate hd body, hagrees⟩
      | none =>
          refine Or.inr ⟨by simp [perform?, populate?, hd], ?_⟩
          intro t hdoes
          cases hdoes with
          | populate hsome => exact absurd (hd.symm.trans hsome) (by simp)
  | rename id name =>
      cases hd : a.get? id with
      | some d =>
          obtain ⟨a', hstep, htable, hagrees⟩ := rename?_spec h hd name
          exact Or.inl ⟨a', hstep, htable ▸ .rename hd name, hagrees⟩
      | none =>
          refine Or.inr ⟨by simp [perform?, rename?, hd], ?_⟩
          intro t hdoes
          cases hdoes with
          | rename hsome => exact absurd (hd.symm.trans hsome) (by simp)

theorem performAll?_append (ops more : List Operation) :
    a.performAll? (ops ++ more) = (a.performAll? ops).bind fun a' => a'.performAll? more := by
  simp only [performAll?, List.foldlM_append]
  rfl

/-- After any operations the register tells the places of the declarations. -/
theorem agrees_of_performAll? {ops : List Operation} (h : a.Agrees) (hops : a.performAll? ops = some a') :
    a'.Agrees := by
  induction ops generalizing a with
  | nil =>
      obtain rfl : a = a' := Option.some.inj hops
      exact h
  | cons op rest ih =>
      obtain ⟨b, hstep, hrest⟩ := Option.bind_eq_some_iff.mp hops
      rcases perform?_spec h op with ⟨b', hstep', _, hagrees⟩ | ⟨hnone, _⟩
      · obtain rfl : b = b' := Option.some.inj (hstep.symm.trans hstep')
        exact ih hagrees hrest
      · exact absurd (hstep.symm.trans hnone) (by simp)

end TypeGraph.Arena
