import TypeGraph.Proofs.Classification.Exploration
import TypeGraph.Proofs.Conversion.Representation

/-!
# Runs are made of operations

Everything that a run does to its conversion is a list of single operations on known types: modules
are asked for, the types of a role are prepared and converted, and those that wait are taken and
converted in turn. So what holds after any operations on known types holds at every moment of a run,
and not just at its end (`exists_operations_of_run`).
-/

namespace TypeGraph

namespace Conversion

variable {env : Env} {strategy : Nullability} {converters : Converters} {s t u : Conversion}

/-- The types that an operation is told to register. It may register others on demand. -/
def Operation.registers : Operation → List Descriptor
  | .register d _ | .prepare _ d => [d]
  | .place _ | .resolve _ | .take | .convert _ _ _ => []

/-- Whatever some operations are told to register is known. -/
def Known (index : Index) (ops : List Operation) : Prop :=
  ∀ op ∈ ops, ∀ d ∈ op.registers, index.find? d.name = some d

/-- One state becomes another by operations on known types. -/
def Becomes (env : Env) (s t : Conversion) : Prop :=
  ∃ ops, Known env.index ops ∧ t = ops.foldl (perform env) s

theorem Becomes.refl (s : Conversion) : Becomes env s s :=
  ⟨[], fun _ hop => absurd hop List.not_mem_nil, rfl⟩

theorem Becomes.trans (h : Becomes env s t) (h' : Becomes env t u) : Becomes env s u := by
  obtain ⟨ops, hops, rfl⟩ := h
  obtain ⟨ops', hops', rfl⟩ := h'
  refine ⟨ops ++ ops', ?_, by rw [List.foldl_append]⟩
  intro op hop
  rcases List.mem_append.mp hop with hmem | hmem
  · exact hops op hmem
  · exact hops' op hmem

theorem Becomes.single (op : Operation) (h : ∀ d ∈ op.registers, env.index.find? d.name = some d) :
    Becomes env s (s.perform env op) := by
  refine ⟨[op], ?_, rfl⟩
  intro o ho
  obtain rfl := List.mem_singleton.mp ho
  exact h

/-- Doing something for one type after the other is a list of operations when each time it is one. -/
theorem becomes_foldl {act : Conversion → Descriptor → Conversion} {types : List Descriptor}
    (hact : ∀ s, ∀ d ∈ types, Becomes env s (act s d)) (s : Conversion) :
    Becomes env s (types.foldl act s) := by
  induction types generalizing s with
  | nil => exact .refl s
  | cons d rest ih =>
      have hrest := ih (fun s o ho => hact s o (List.mem_cons_of_mem _ ho)) (act s d)
      exact (hact s d List.mem_cons_self).trans hrest

theorem becomes_prepareAll {c : Converter} {types : List Descriptor}
    (hknown : ∀ d ∈ types, env.index.find? d.name = some d) (s : Conversion) :
    Becomes env s (s.prepareAll env c types).2 := by
  induction types generalizing s with
  | nil => exact .refl s
  | cons d rest ih =>
      have hfirst : Becomes env s (s.prepare env c d) := by
        refine .single (.prepare c d) fun o ho => ?_
        obtain rfl := List.mem_singleton.mp ho
        exact hknown o List.mem_cons_self
      exact hfirst.trans (ih (fun o ho => hknown o (List.mem_cons_of_mem _ ho)) _)

theorem becomes_convert (c : Converter) (d : Descriptor) (s : Conversion) :
    Becomes env s (s.convert env strategy c d) :=
  .single (.convert strategy c d) fun _ ho => absurd ho List.not_mem_nil

theorem becomes_takePending {d : Descriptor} (h : s.takePending? = some (d, t)) :
    Becomes env s t := by
  have htake : s.perform env .take = t := by simp only [perform, h]
  rw [← htake]
  exact .single .take fun _ ho => absurd ho List.not_mem_nil

/-- The queue takes a type and converts it, turn by turn. -/
theorem becomes_drain (h : s.drain env strategy converters = .ok t) : Becomes env s t := by
  have hkeep := drain_keeps (I := fun u => Becomes env s u)
    (fun u d u' c hu htake _ => (hu.trans (becomes_takePending htake)).trans (becomes_convert c d u'))
    h (.refl s)
  exact hkeep.1

theorem becomes_convertRole {c : Converter} {types : List Descriptor}
    (hknown : ∀ d ∈ types, env.index.find? d.name = some d)
    (h : s.convertRole env strategy converters c types = .ok t) : Becomes env s t := by
  have hconverted : Becomes env (s.prepareAll env c types).2
      ((s.prepareAll env c types).1.foldl (fun s d => s.convert env strategy c d)
        (s.prepareAll env c types).2) :=
    becomes_foldl (fun s d _ => becomes_convert c d s) _
  exact ((becomes_prepareAll hknown s).trans hconverted).trans (becomes_drain h)

end Conversion

namespace Setup

open Conversion (Becomes Known after)

variable {s : Setup} {discovery : Discovery} {index : Index}

theorem becomes_start (s : Setup) (index : Index) (c : Classification) :
    Becomes (s.env index) {} (s.start index c) :=
  Conversion.becomes_foldl (fun _ d _ => .single (.place d) fun _ ho => absurd ho List.not_mem_nil) {}

theorem becomes_convertRole {converter : Option Converter} {names : Names} {state t : Conversion}
    (h : s.convertRole index converter names state = .ok t) : Becomes (s.env index) state t := by
  cases converter with
  | none =>
      obtain rfl := Except.ok.inj h
      exact .refl state
  | some c =>
      exact Conversion.becomes_convertRole
        (fun d hd => (known_of_mem hd).1) h

/-- What a run does to its conversion is a list of operations on known types. -/
theorem exists_operations_of_run {outcome : Outcome} (h : s.run discovery = .ok outcome) :
    ∃ ops, Known (Setup.index discovery) ops ∧
      outcome.graph = (after (s.env (Setup.index discovery)) ops).graph := by
  obtain ⟨_, enums, models, final, henums, hmodels, hrests, hgraph⟩ := exists_states h
  have hall : Becomes (s.env (Setup.index discovery)) {} final :=
    (((becomes_start s _ _).trans (becomes_convertRole henums)).trans
      (becomes_convertRole hmodels)).trans (becomes_convertRole hrests)
  obtain ⟨ops, hops, rfl⟩ := hall
  exact ⟨ops, hops, hgraph⟩

end Setup

end TypeGraph
