import TypeGraph.Proofs.Conversion.Representation

/-!
# Declarations are written once

Whatever a conversion is told to do, and in whatever order, a declaration keeps its place in the table,
its source, its module and its name from its registration on. What can become of it is that its shell is
filled in (`Declaration.Matures`), and that happens at most once: a declaration that is filled in is never
changed again, by no converter, no body and no other type with its identity. Every single change of a
conversion keeps this (`Table.Lasts`), and so do any number of them.
-/

namespace TypeGraph

/-! ## What becomes of a declaration -/

namespace Declaration

variable {e e' e'' : Declaration}

/-- What can become of a declaration: a shell can be filled in, and nothing else happens. -/
inductive Matures (e : Declaration) : Declaration → Prop
  | same : Matures e e
  | filled (body : Body) (h : e.progress = .registered) :
      Matures e { e with body, progress := .populated }

namespace Matures

theorem trans (h : e.Matures e') (h' : e'.Matures e'') : e.Matures e'' := by
  cases h with
  | same => exact h'
  | filled body hshell =>
      cases h' with
      | same => exact .filled body hshell
      | filled other hagain => exact absurd hagain Progress.noConfusion

theorem source_eq (h : e.Matures e') : e'.source = e.source := by
  cases h <;> rfl

theorem name_eq (h : e.Matures e') : e'.name = e.name := by
  cases h <;> rfl

theorem module_eq (h : e.Matures e') : e'.module = e.module := by
  cases h <;> rfl

theorem eq_of_populated (h : e.Matures e') (hpopulated : e.progress = .populated) : e' = e := by
  cases h with
  | same => rfl
  | filled body hshell => exact absurd (hshell.symm.trans hpopulated) Progress.noConfusion

theorem eq_of_registered (h : e.Matures e') (hregistered : e'.progress = .registered) : e' = e := by
  cases h with
  | same => rfl
  | filled body hshell => exact absurd hregistered Progress.noConfusion

end Matures

theorem matures_filled (e : Declaration) (body : Body) : e.Matures (Table.filled e body) := by
  unfold Table.filled
  split
  · rename_i hshell
    exact .filled body hshell
  · exact .same

end Declaration

/-! ## What becomes of a table -/

namespace Table

variable {t t' t'' : Table} {source : String} {id : Nat} {e : Declaration}

/-- Every place of a table has the same declaration later, as far as it can be the same. -/
def Lasts (t t' : Table) : Prop :=
  ∀ (id : Nat) (e : Declaration), t.declarations[id]? = some e →
    ∃ e', t'.declarations[id]? = some e' ∧ e.Matures e'

theorem Lasts.refl (t : Table) : t.Lasts t := fun _ e he => ⟨e, he, .same⟩

theorem Lasts.trans (h : t.Lasts t') (h' : t'.Lasts t'') : t.Lasts t'' := by
  intro id e he
  obtain ⟨e', he', hfirst⟩ := h id e he
  obtain ⟨e'', he'', hsecond⟩ := h' id e' he'
  exact ⟨e'', he'', hfirst.trans hsecond⟩

/-- New declarations come behind the others. -/
theorem lasts_of_append {news : List Declaration}
    (h : t'.declarations = t.declarations ++ news) : t.Lasts t' := by
  intro id e he
  obtain ⟨hlt, _⟩ := List.getElem?_eq_some_iff.mp he
  refine ⟨e, ?_, .same⟩
  rw [h, List.getElem?_append_left hlt]
  exact he

/-- Filling in concerns one declaration, and that only while it is a shell. -/
theorem lasts_populate (t : Table) (source : String) (body : Body) :
    t.Lasts (t.populate source body) := by
  intro id e he
  have hget : (t.populate source body).declarations[id]? =
      some (if e.source = source then filled e body else e) := by
    simp only [populate, modify, List.getElem?_map, he, Option.map_some]
    rfl
  refine ⟨_, hget, ?_⟩
  split
  · exact e.matures_filled body
  · exact .same

/-- A source keeps its place. -/
theorem Lasts.idOf? (h : t.Lasts t') (hn : t.sources.Nodup) (hn' : t'.sources.Nodup)
    (hid : t.idOf? source = some id) : t'.idOf? source = some id := by
  obtain ⟨e, he, rfl⟩ := (idOf?_eq_some_iff hn).mp hid
  obtain ⟨e', he', hmatures⟩ := h id e he
  exact (idOf?_eq_some_iff hn').mpr ⟨e', he', hmatures.source_eq⟩

/-- A shell that is registered under one name and then called by another is registered under the
other. -/
theorem rename_register (h : t.contains e.source = false) (name : String) :
    (t.register e).rename e.source name = t.register { e with name } := by
  have hsame := congrArg Table.declarations
    (modify_of_not_contains h fun d => { d with name })
  simp only [modify] at hsame
  simp only [rename, modify, register, h, Bool.false_eq_true, if_false, List.map_append, hsame,
    List.map_cons, List.map_nil, if_true]

end Table

namespace Conversion

variable {env : Env} {s t : Conversion} {d : Descriptor} {x : String} {id : Nat}

/-! ## Every change -/

theorem lasts_of_move (h : Move env s t) : s.table.Lasts t.table := by
  cases h with
  | register d shell hacc => exact Table.lasts_of_append (register_of_accepts shell hacc)
  | fill source body => exact Table.lasts_populate s.table source body
  | place d => exact .refl _
  | wait d => exact .refl _
  | take => exact .refl _
  | warn w => exact .refl _

theorem lasts_of_moves (h : Moves env s t) : s.table.Lasts t.table :=
  keep_of_moves (I := fun u => s.table.Lasts u.table)
    (fun _ _ hmove hlasts => hlasts.trans (lasts_of_move hmove)) h (.refl _)

/-- No change gives a declaration to a type with a chosen target. -/
theorem not_custom_of_moves (h : Moves env {} t) (hx : t.table.contains x = true) :
    env.custom.contains x = false := by
  refine keep_of_moves (I := fun u => ∀ x, u.table.contains x = true → env.custom.contains x = false)
    ?_ h (fun x hempty => absurd hempty (by simp [Table.contains])) x hx
  intro u v hmove hfree x hcontains
  cases hmove with
  | register d shell hacc =>
      obtain ⟨e, he, rfl⟩ := Table.contains_iff.mp hcontains
      rw [register_of_accepts shell hacc] at he
      rcases List.mem_append.mp he with hold | hnew
      · exact hfree _ (Table.contains_of_mem hold)
      · obtain rfl := List.mem_singleton.mp hnew
        exact (accepts_iff.mp hacc).1
  | fill source body => exact hfree x ((contains_populate u.table source x body).symm.trans hcontains)
  | place d => exact hfree x hcontains
  | wait d => exact hfree x hcontains
  | take => exact hfree x hcontains
  | warn w => exact hfree x hcontains

/-! ## Every call -/

/-- What a conversion can be told to do: an operation, or filling in a declaration with any body. -/
inductive Call where
  | operate (op : Operation)
  | fill (source : String) (body : Body)

/-- The state after a call. -/
def call (env : Env) (s : Conversion) : Call → Conversion
  | .operate op => s.perform env op
  | .fill source body => { s with table := s.table.populate source body }

/-- The state after some calls, from the beginning. -/
def reached (env : Env) (calls : List Call) : Conversion := calls.foldl (call env) {}

theorem moves_call (s : Conversion) (c : Call) : Moves env s (s.call env c) := by
  cases c with
  | operate op => exact moves_perform s op
  | fill source body => exact .single (.fill s source body)

theorem moves_calls (calls : List Call) (s : Conversion) :
    Moves env s (calls.foldl (call env) s) := by
  induction calls generalizing s with
  | nil => exact .refl
  | cons c rest ih => exact (moves_call s c).trans (ih _)

theorem moves_reached (env : Env) (calls : List Call) : Moves env {} (reached env calls) :=
  moves_calls calls {}

theorem moves_reached_append (env : Env) (calls more : List Call) :
    Moves env (reached env calls) (reached env (calls ++ more)) := by
  unfold reached
  rw [List.foldl_append]
  exact moves_calls more _

theorem nodup_sources_reached (env : Env) (calls : List Call) :
    (reached env calls).table.sources.Nodup :=
  nodup_sources_of_moves (moves_reached env calls) (by simp [Table.sources])

/-! ## Registration -/

/-- How registering a type goes on. -/
structure RegistersOnce (env : Env) (s : Conversion) : Prop where
  /-- A type that has a declaration is answered with its place, and nothing happens. -/
  again : ∀ (d : Descriptor) (shell : Body) (id : Nat), s.table.idOf? d.name = some id →
    s.registered? env d shell = some (id, false) ∧ s.register env d shell = s
  /-- A type that is accepted gets the next place. Its shell is entered under the preferred name and then
  gets the name that was reserved for it; after that the name is settled. -/
  first : ∀ (d : Descriptor) (shell : Body), s.accepts env d = true →
    s.registered? env d shell = some (s.table.size, true) ∧
      ∃ name, (s.register env d shell).table =
        (s.table.register { name := declarationName d.simpleName, source := d.name
                            module := env.placement.path d, body := shell }).rename d.name name

theorem registersOnce_of_moves (h : Moves env {} s) : s.RegistersOnce env where
  again := by
    intro d shell id hid
    have hn : s.table.sources.Nodup := nodup_sources_of_moves h (by simp [Table.sources])
    obtain ⟨e, he, hsource⟩ := (Table.idOf?_eq_some_iff hn).mp hid
    have hcontains : s.table.contains d.name = true :=
      Table.contains_iff.mpr ⟨e, List.mem_of_getElem? he, hsource⟩
    have hcustom := not_custom_of_moves h hcontains
    have hacc : s.accepts env d = false := by simp [accepts, hcontains]
    have hsame := register_of_not_accepts shell hacc
    refine ⟨?_, hsame⟩
    simp [registered?, hcustom, hsame, hid, hacc]
  first := by
    intro d shell hacc
    obtain ⟨hcustom, hcontains⟩ := accepts_iff.mp hacc
    have hn : (s.register env d shell).table.sources.Nodup :=
      nodup_sources_of_moves (h.trans (moves_register s d shell)) (by simp [Table.sources])
    have hid : (s.register env d shell).table.idOf? d.name = some s.table.size := by
      rw [Table.idOf?_eq_some_iff hn, register_of_accepts shell hacc]
      refine ⟨_, List.getElem?_concat_length, rfl⟩
    refine ⟨by simp [registered?, hcustom, hid, hacc], ?_⟩
    refine ⟨(s.modules.ensure (env.placement.path d)).freeName (env.placement.path d)
      (declarationName d.simpleName), ?_⟩
    rw [Table.rename_register hcontains]
    simp only [register, hacc, if_true]
    rfl

/-! ## Whatever was done -/

/-- What stays of the declarations of a state in a later one. -/
structure Keeps (s t : Conversion) : Prop where
  /-- A source keeps its place. -/
  ids : ∀ (source : String) (id : Nat), s.table.idOf? source = some id → t.table.idOf? source = some id
  /-- A shell keeps its source, its module and its name, and its body until it is filled in. -/
  shells : ∀ (id : Nat) (e : Declaration), s.table.declarations[id]? = some e → e.progress = .registered →
    ∃ e', t.table.declarations[id]? = some e' ∧ e'.source = e.source ∧ e'.module = e.module ∧
      e'.name = e.name ∧ (e'.progress = .registered → e'.body = e.body)
  /-- A declaration that is filled in stays as it is. -/
  populated : ∀ (id : Nat) (e : Declaration), s.table.declarations[id]? = some e → e.progress = .populated →
    t.table.declarations[id]? = some e

theorem keeps_of_lasts (h : s.table.Lasts t.table) (hn : s.table.sources.Nodup)
    (hn' : t.table.sources.Nodup) : s.Keeps t where
  ids := fun _ _ hid => h.idOf? hn hn' hid
  shells := by
    intro id e he _
    obtain ⟨e', he', hmatures⟩ := h id e he
    refine ⟨e', he', hmatures.source_eq, hmatures.module_eq, hmatures.name_eq, ?_⟩
    intro hregistered
    rw [hmatures.eq_of_registered hregistered]
  populated := by
    intro id e he hpopulated
    obtain ⟨e', he', hmatures⟩ := h id e he
    rw [← hmatures.eq_of_populated hpopulated]
    exact he'

/-- Whatever a conversion is told to do, declarations are written once: after any calls, all that is
declared keeps its place, its source, its module and its name through any further calls, and its body and
its state as soon as it is filled in. A type that has a declaration is not registered again. -/
theorem keeps_after (env : Env) (calls more : List Call) :
    (reached env calls).Keeps (reached env (calls ++ more)) ∧
      (reached env calls).RegistersOnce env := by
  refine ⟨?_, registersOnce_of_moves (moves_reached env calls)⟩
  exact keeps_of_lasts (lasts_of_moves (moves_reached_append env calls more))
    (nodup_sources_reached env calls) (nodup_sources_reached env (calls ++ more))

end Conversion

end TypeGraph
