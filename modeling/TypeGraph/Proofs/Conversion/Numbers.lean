import TypeGraph.Conversion.Numbered
import TypeGraph.Proofs.Conversion.Lasting
import TypeGraph.Proofs.Target.Arena

/-!
# Conversions go by number

Whatever a conversion does to its table, by the sources of declarations, can be done by their numbers
(`Arena.exists_of_moves`), and registering a type by number answers and does the same as by source
(`Arena.declare?_spec`). So numbers and sources stay two ways to speak of the same declarations through
any calls (`Arena.numbered_reached`).
-/

namespace TypeGraph.Arena

variable {env : Env} {a : Arena} {s t : Conversion} {d : Descriptor} {shell : Body}

/-! ## Registration -/

/-- A new declaration has the next number. -/
theorem register_of_new {e : Declaration} (h : a.lookup? e.source = none) :
    (a.register e).1 = (a.declarations.length, true) := by
  simp [register, h]

/-- A new shell can be renamed by its number, and is entered under the other name then. -/
theorem rename?_register (h : a.Agrees) {e : Declaration} (hnew : a.lookup? e.source = none)
    (name : String) :
    ∃ a', (a.register e).2.rename? a.declarations.length name = some a' ∧
      a'.table = a.table.register { e with name } ∧ a'.Agrees := by
  obtain ⟨htable, hagrees, hid, _⟩ := register_spec h e
  have hlookup : (a.register e).2.lookup? e.source = some a.declarations.length := by
    rw [hagrees.lookup, htable, hid, register_of_new hnew]
  obtain ⟨o, hget, hsource⟩ := hagrees.lookup?_eq_some_iff.mp hlookup
  obtain ⟨a', hrename, htable', hagrees'⟩ := rename?_spec hagrees hget name
  refine ⟨a', hrename, ?_, hagrees'⟩
  rw [htable', hsource, htable, Table.rename_register (h.lookup?_eq_none_iff.mp hnew)]

/-- A shell that is entered under one name and, if another one is reserved, renamed by its number, is
entered under the name that is reserved. -/
theorem exists_named (h : a.Agrees) {e : Declaration} (hnew : a.lookup? e.source = none)
    (name : String) :
    ∃ a', (if name = e.name then some (a.register e).2
        else (a.register e).2.rename? a.declarations.length name) = some a' ∧
      a'.table = a.table.register { e with name } ∧
      a'.lookup? e.source = some a.declarations.length ∧ a'.Agrees := by
  obtain ⟨a', hsome, htable, hagrees⟩ : ∃ a', (if name = e.name then some (a.register e).2
      else (a.register e).2.rename? a.declarations.length name) = some a' ∧
      a'.table = a.table.register { e with name } ∧ a'.Agrees := by
    split
    · rename_i hname
      obtain ⟨htable, hagrees, _⟩ := register_spec h e
      exact ⟨_, rfl, by rw [htable, hname], hagrees⟩
    · exact rename?_register h hnew name
  obtain ⟨_, _, hid, _⟩ := register_spec h { e with name }
  refine ⟨a', hsome, htable, ?_, hagrees⟩
  rw [hagrees.lookup, htable, hid, register_of_new (e := { e with name }) hnew]

/-- A type that is accepted gets the next number, and the shell that registering it by source gives it. -/
theorem declare?_of_accepts (h : a.Agrees) (htable : a.table = s.table)
    (hacc : s.accepts env d = true) (shell : Body) :
    ∃ a', a.declare? env s.modules d shell =
        some (s.registered? env d shell, a', (s.register env d shell).modules) ∧
      a'.table = (s.register env d shell).table ∧ a'.Agrees := by
  obtain ⟨hcustom, hcontains⟩ := Conversion.accepts_iff.mp hacc
  have hnew : a.lookup? d.name = none := h.lookup?_eq_none_iff.mpr (htable ▸ hcontains)
  obtain ⟨a', hnamed, htable', hnumber, hagrees⟩ := exists_named (e := preferredShell env d shell)
    h hnew ((s.modules.ensure (env.placement.path d)).freeName (env.placement.path d)
      (Conversion.declarationName d.simpleName))
  have hregistered : (s.register env d shell).table = a'.table := by
    rw [htable', htable, Conversion.register, if_pos hacc]
    rfl
  have hlookup : a'.lookup? d.name = some a.declarations.length := hnumber
  have hanswer : s.registered? env d shell = some (a.declarations.length, true) := by
    rw [hagrees.lookup, ← hregistered] at hlookup
    simp [Conversion.registered?, hcustom, hlookup, hacc]
  have hstep : a.register (preferredShell env d shell) =
      ((a.declarations.length, true), (a.register (preferredShell env d shell)).2) :=
    Prod.ext (register_of_new hnew) rfl
  refine ⟨a', ?_, hregistered.symm, hagrees⟩
  rw [hanswer]
  simp only [declare?, hcustom, hnew, Conversion.register, if_pos hacc, ModuleTree.reserve]
  rw [hstep]
  simp only [preferredShell] at hnamed ⊢
  simp only [Bool.false_eq_true, if_false, Option.map_eq_some_iff, Prod.mk.injEq, and_true, true_and,
    exists_eq_right]
  exact hnamed

/-- A type that is not accepted changes nothing: a target was chosen for it, or it has a number. -/
theorem declare?_of_not_accepts (h : a.Agrees) (htable : a.table = s.table)
    (hacc : s.accepts env d = false) (shell : Body) :
    a.declare? env s.modules d shell = some (s.registered? env d shell, a, s.modules) := by
  have hsame : s.register env d shell = s := Conversion.register_of_not_accepts shell hacc
  cases hcustom : env.custom.contains d.name with
  | true => simp [declare?, Conversion.registered?, hcustom]
  | false =>
      cases hlookup : a.lookup? d.name with
      | some id =>
          have hid : s.table.idOf? d.name = some id := by rw [← htable, ← h.lookup, hlookup]
          simp [declare?, Conversion.registered?, hcustom, hlookup, hsame, hid, hacc]
      | none =>
          have hcontains := htable ▸ h.lookup?_eq_none_iff.mp hlookup
          exact absurd (hacc.symm.trans (Conversion.accepts_iff.mpr ⟨hcustom, hcontains⟩)) (by simp)

/-- Registering a type by number answers the place of its declaration, and declares what registering it
by source declares. -/
theorem declare?_spec (h : a.Agrees) (htable : a.table = s.table) (d : Descriptor) (shell : Body) :
    ∃ a', a.declare? env s.modules d shell =
        some (s.registered? env d shell, a', (s.register env d shell).modules) ∧
      a'.table = (s.register env d shell).table ∧ a'.Agrees := by
  cases hacc : s.accepts env d with
  | true => exact declare?_of_accepts h htable hacc shell
  | false =>
      refine ⟨a, ?_, ?_, h⟩
      · rw [declare?_of_not_accepts h htable hacc, Conversion.register_of_not_accepts shell hacc]
      · rw [htable, Conversion.register_of_not_accepts shell hacc]

/-! ## Every change -/

/-- A change of a conversion does to its table what some operations by number do. -/
theorem exists_of_move (h : Conversion.Move env s t) (ha : a.Agrees) (htable : a.table = s.table) :
    ∃ ops a', a.performAll? ops = some a' ∧ a'.table = t.table := by
  cases h with
  | register d shell hacc =>
      obtain ⟨_, hcontains⟩ := Conversion.accepts_iff.mp hacc
      have hnew : a.lookup? d.name = none := ha.lookup?_eq_none_iff.mpr (htable ▸ hcontains)
      obtain ⟨name, hregister⟩ : ∃ name, (s.register env d shell).table =
          s.table.register { preferredShell env d shell with name } :=
        ⟨_, by rw [Conversion.register, if_pos hacc]; rfl⟩
      obtain ⟨a', hrename, htable', _⟩ :=
        rename?_register (e := preferredShell env d shell) ha hnew name
      refine ⟨[.register (preferredShell env d shell), .rename a.declarations.length name], a', ?_, ?_⟩
      · simp [performAll?, perform?, hrename]
      · rw [htable', htable, hregister]
  | fill source body =>
      cases hlookup : a.lookup? source with
      | some id =>
          obtain ⟨d, hd, rfl⟩ := ha.lookup?_eq_some_iff.mp hlookup
          obtain ⟨a', hpopulate, htable', _⟩ := populate?_spec ha hd body
          exact ⟨[.populate id body], a', by simp [performAll?, perform?, hpopulate],
            by rw [htable', htable]⟩
      | none =>
          -- there is no declaration to fill in
          have hcontains := htable ▸ ha.lookup?_eq_none_iff.mp hlookup
          exact ⟨[], a, rfl, htable.trans (Table.modify_of_not_contains hcontains _).symm⟩
  | place d => exact ⟨[], a, rfl, htable⟩
  | wait d => exact ⟨[], a, rfl, htable⟩
  | take => exact ⟨[], a, rfl, htable⟩
  | warn w => exact ⟨[], a, rfl, htable⟩

/-- What a conversion does to its table can be done by number. -/
theorem exists_of_moves (h : Conversion.Moves env {} s) :
    ∃ ops a, Arena.performAll? {} ops = some a ∧ a.table = s.table := by
  refine Conversion.keep_of_moves
    (I := fun u => ∃ ops a, Arena.performAll? {} ops = some a ∧ a.table = u.table) ?_ h ⟨[], {}, rfl, rfl⟩
  rintro u v hmove ⟨ops, a, hops, htable⟩
  obtain ⟨more, a', hmore, htable'⟩ :=
    exists_of_move hmove (agrees_of_performAll? agrees_empty hops) htable
  exact ⟨ops ++ more, a', by simp [performAll?_append, hops, hmore], htable'⟩

/-- Through any calls, the declarations can be had by number: the operations succeed, a source type has
the number of its place, a type is registered by number as it is by source, and a declaration is filled in
by its number as it is by its source. -/
theorem numbered_reached (env : Env) (calls : List Conversion.Call) :
    ∃ ops a, Arena.performAll? {} ops = some a ∧ a.table = (Conversion.reached env calls).table ∧
      (∀ source, a.lookup? source = (Conversion.reached env calls).table.idOf? source) ∧
      (∀ d shell, ∃ a', a.declare? env (Conversion.reached env calls).modules d shell =
          some ((Conversion.reached env calls).registered? env d shell, a',
            ((Conversion.reached env calls).register env d shell).modules) ∧
        a'.table = ((Conversion.reached env calls).register env d shell).table) ∧
      ∀ source id, a.lookup? source = some id → ∀ body,
        a.isPopulated? id = some ((Conversion.reached env calls).table.isPopulated source) ∧
        ∃ a', a.populate? id body =
            some (!(Conversion.reached env calls).table.isPopulated source, a') ∧
          a'.table = (Conversion.reached env calls).table.populate source body := by
  obtain ⟨ops, a, hops, htable⟩ := exists_of_moves (Conversion.moves_reached env calls)
  have ha := agrees_of_performAll? agrees_empty hops
  refine ⟨ops, a, hops, htable, fun source => by rw [ha.lookup, htable], ?_, ?_⟩
  · intro d shell
    obtain ⟨a', hdeclare, htable', _⟩ := declare?_spec ha htable d shell
    exact ⟨a', hdeclare, htable'⟩
  · intro source id hlookup body
    obtain ⟨d, hd, rfl⟩ := ha.lookup?_eq_some_iff.mp hlookup
    obtain ⟨a', hpopulate, htable', _⟩ := populate?_spec ha hd body
    rw [← htable]
    exact ⟨isPopulated?_spec ha hd, a', hpopulate, htable'⟩

end TypeGraph.Arena
