import Mathlib.Logic.Relation
import TypeGraph.Proofs.Target.Table
import TypeGraph.Run

/-!
# What a conversion can do

Every operation of a conversion is a sequence of a few changes: a module is created, a shell is
registered, a type starts or stops to wait, a warning is added, a declaration is filled in. A property
that each change keeps holds after every run (`keep_of_moves`), so an invariant has one case for each
change and never follows the operations themselves. The functions that branch have one lemma that says
all they can do (`need_cases`, `convert_cases`, `drain_keeps`).
-/

namespace TypeGraph

namespace Conversion

open Relation (ReflTransGen)

variable {env : Env} {strategy : Nullability} {converters : Converters}

/-- One change of a conversion. -/
inductive Move (env : Env) : Conversion → Conversion → Prop
  | place (s : Conversion) (d : Descriptor) : Move env s (s.place env d)
  | register (s : Conversion) (d : Descriptor) (shell : Body) (h : s.accepts env d = true) :
      Move env s (s.register env d shell)
  | wait (s : Conversion) (d : Descriptor) : Move env s { s with pending := s.pending ++ [d] }
  | take (s : Conversion) : Move env s { s with pending := s.pending.tail }
  | warn (s : Conversion) (w : Warning) : Move env s { s with warnings := s.warnings ++ [w] }
  | fill (s : Conversion) (source : String) (body : Body) :
      Move env s { s with table := s.table.populate source body }

/-- Any number of changes. -/
abbrev Moves (env : Env) : Conversion → Conversion → Prop := ReflTransGen (Move env)

/-- A property that every change keeps is kept by any number of them. -/
theorem keep_of_moves {I : Conversion → Prop} (hstep : ∀ s t, Move env s t → I s → I t)
    {s t : Conversion} (h : Moves env s t) (hs : I s) : I t := by
  induction h with
  | refl => exact hs
  | tail _ hmove ih => exact hstep _ _ hmove ih

/-! ## Operations without a branch -/

theorem register_of_accepts {s : Conversion} {d : Descriptor} (shell : Body)
    (h : s.accepts env d = true) :
    (s.register env d shell).table.declarations = s.table.declarations ++
      [{ name := (s.modules.ensure (env.placement.path d)).freeName (env.placement.path d)
                  (declarationName d.simpleName)
         source := d.name, module := env.placement.path d, body := shell }] := by
  have hnot : s.table.contains d.name = false := by
    simpa [accepts] using (Bool.and_eq_true_iff.mp h).2
  simp only [register, h, if_true]
  exact Table.declarations_register hnot

/-- An accepted registration adds one empty declaration at the end. -/
theorem exists_registered {s : Conversion} {d : Descriptor} (shell : Body)
    (h : s.accepts env d = true) :
    ∃ e : Declaration, e.source = d.name ∧ e.progress = .registered ∧
      (s.register env d shell).table.declarations = s.table.declarations ++ [e] :=
  ⟨_, rfl, rfl, register_of_accepts shell h⟩

theorem nodup_sources_register {s : Conversion} {d : Descriptor} (shell : Body)
    (h : s.accepts env d = true) (hn : s.table.sources.Nodup) :
    (s.register env d shell).table.sources.Nodup := by
  have hnot : s.table.contains d.name = false := by
    simpa [accepts] using (Bool.and_eq_true_iff.mp h).2
  simp only [register, h, if_true]
  exact Table.nodup_register hn hnot

/-- Every change keeps sources distinct. -/
theorem nodup_sources_of_move {s t : Conversion} (h : Move env s t) (hn : s.table.sources.Nodup) :
    t.table.sources.Nodup := by
  cases h with
  | register d shell hacc => exact nodup_sources_register shell hacc hn
  | fill source body =>
      show (s.table.populate source body).sources.Nodup
      rw [Table.sources_populate]
      exact hn
  | place d => exact hn
  | wait d => exact hn
  | take => exact hn
  | warn w => exact hn

theorem nodup_sources_of_moves {s t : Conversion} (h : Moves env s t) (hn : s.table.sources.Nodup) :
    t.table.sources.Nodup :=
  keep_of_moves (I := fun u => u.table.sources.Nodup) (fun _ _ => nodup_sources_of_move) h hn

theorem register_of_not_accepts {s : Conversion} {d : Descriptor} (shell : Body)
    (h : s.accepts env d = false) : s.register env d shell = s := by
  simp [register, h]

@[simp] theorem pending_register (s : Conversion) (d : Descriptor) (shell : Body) :
    (s.register env d shell).pending = s.pending := by
  unfold register
  split <;> rfl

theorem accepts_iff {s : Conversion} {d : Descriptor} :
    s.accepts env d = true ↔ env.custom.contains d.name = false ∧ s.table.contains d.name = false := by
  simp [accepts]

theorem moves_register (s : Conversion) (d : Descriptor) (shell : Body) :
    Moves env s (s.register env d shell) := by
  cases h : s.accepts env d with
  | true => exact .single (.register s d shell h)
  | false => rw [register_of_not_accepts shell h]

theorem moves_demand (s : Conversion) (d : Descriptor) : Moves env s (s.demand env d) :=
  (moves_register s d (demandShell d)).tail (.wait _ d)

theorem moves_takePending {s t : Conversion} {d : Descriptor}
    (h : s.takePending? = some (d, t)) : Moves env s t := by
  obtain ⟨hpending, ht⟩ := takePending?_eq_some h
  have htail : t = { s with pending := s.pending.tail } := by
    rw [hpending, List.tail_cons]
    exact ht
  rw [htail]
  exact .single (.take s)

/-! ## Needs -/

/-- No target was chosen for an identity that a declaration can be made for. -/
theorem not_custom_of_isDeclarable {name : String} (h : env.isDeclarable name = true) :
    env.custom.contains name = false := by
  unfold Env.isDeclarable at h
  split at h
  · simpa using (Bool.and_eq_true_iff.mp h).2
  · simp at h

/-- All that a needed identity can lead to: it has a declaration; it can have none, and only a
warning is added; or its type is registered on demand. -/
theorem need_cases (env : Env) (s : Conversion) (name : String) :
    (s.table.contains name = true ∧ s.need env name = s) ∨
    (s.table.contains name = false ∧ env.isDeclarable name = false ∧
      s.need env name = { s with warnings := s.warnings ++ [.unresolved name] }) ∨
    (∃ d, env.index.find? name = some d ∧ d.name = name ∧ env.isDeclarable name = true ∧
      s.accepts env d = true ∧ s.need env name = s.demand env d) := by
  cases hcontains : s.table.contains name with
  | true => exact Or.inl ⟨rfl, by simp [need, hcontains]⟩
  | false =>
      right
      cases hfind : env.index.find? name with
      | none =>
          have hnot : env.isDeclarable name = false := by simp [Env.isDeclarable, hfind]
          exact Or.inl ⟨rfl, hnot, by simp [need, hcontains, hfind]⟩
      | some d =>
          cases hdecl : env.isDeclarable name with
          | false => exact Or.inl ⟨rfl, rfl, by simp [need, hcontains, hfind, hdecl]⟩
          | true =>
              right
              have hname : d.name = name := Index.name_of_find? hfind
              refine ⟨d, rfl, hname, rfl, ?_, by simp [need, hcontains, hfind, hdecl]⟩
              rw [accepts_iff, hname]
              exact ⟨not_custom_of_isDeclarable hdecl, hcontains⟩

theorem moves_need (s : Conversion) (name : String) : Moves env s (s.need env name) := by
  rcases need_cases env s name with ⟨_, h⟩ | ⟨_, _, h⟩ | ⟨d, _, _, _, _, h⟩
  · rw [h]
  · rw [h]
    exact .single (.warn s _)
  · rw [h]
    exact moves_demand s d

theorem moves_needAll (s : Conversion) (names : List String) :
    Moves env s (s.needAll env names) := by
  induction names generalizing s with
  | nil => exact .refl
  | cons name rest ih => exact (moves_need s name).trans (ih _)

/-! ## Bodies -/

/-- All that a conversion of one type can do: fill in its shell after seeing to what the converter
needs, or nothing. -/
theorem convert_cases (env : Env) (strategy : Nullability) (s : Conversion) (c : Converter)
    (d : Descriptor) :
    (s.table.contains d.name = true ∧ s.table.isPopulated d.name = false ∧
      s.convert env strategy c d =
        { s.needAll env ((c.references d).flatMap env.needs) with
          table := (s.needAll env ((c.references d).flatMap env.needs)).table.populate d.name
            (c.body (s.target env) strategy d) }) ∨
    ((s.table.contains d.name = false ∨ s.table.isPopulated d.name = true) ∧
      s.convert env strategy c d = s) := by
  cases hcontains : s.table.contains d.name with
  | false => exact Or.inr ⟨Or.inl rfl, by simp [convert, hcontains]⟩
  | true =>
      cases hpop : s.table.isPopulated d.name with
      | true => exact Or.inr ⟨Or.inr rfl, by simp [convert, hpop]⟩
      | false => exact Or.inl ⟨rfl, rfl, by simp [convert, hcontains, hpop]⟩

theorem moves_convert (s : Conversion) (c : Converter) (d : Descriptor) :
    Moves env s (s.convert env strategy c d) := by
  rcases convert_cases env strategy s c d with ⟨_, _, h⟩ | ⟨_, h⟩
  · rw [h]
    exact (moves_needAll s _).tail (.fill _ _ _)
  · rw [h]

theorem moves_converts (c : Converter) (types : List Descriptor) (s : Conversion) :
    Moves env s (types.foldl (fun s d => s.convert env strategy c d) s) := by
  induction types generalizing s with
  | nil => exact .refl
  | cons d rest ih => exact (moves_convert s c d).trans (ih _)

/-! ## Roles -/

theorem drain_of_none {s : Conversion} (h : s.takePending? = none) :
    s.drain env strategy converters = .ok s := by
  rw [drain]
  split
  · rfl
  · rename_i htake
    rw [h] at htake
    exact absurd htake (by simp)

/-- When a type waits, the queue stops at it or goes on from the state that converts it. -/
theorem drain_of_take {s t : Conversion} {d : Descriptor} (h : s.takePending? = some (d, t)) :
    s.drain env strategy converters =
      match converters.for? d with
      | .error e => .error e
      | .ok c => (t.convert env strategy c d).drain env strategy converters := by
  rw [drain]
  split
  · rename_i hnone
    rw [h] at hnone
    exact absurd hnone (by simp)
  · rename_i d' t' htake
    obtain ⟨rfl, rfl⟩ := Prod.mk.inj (Option.some.inj (h.symm.trans htake))
    rfl

theorem drain_of_error {s t : Conversion} {d : Descriptor} {e : Error}
    (h : s.takePending? = some (d, t)) (hconv : converters.for? d = .error e) :
    s.drain env strategy converters = .error e := by
  rw [drain_of_take h, hconv]

/-- One turn of the queue. -/
theorem drain_of_some {s t : Conversion} {d : Descriptor} {c : Converter}
    (h : s.takePending? = some (d, t)) (hconv : converters.for? d = .ok c) :
    s.drain env strategy converters =
      (t.convert env strategy c d).drain env strategy converters := by
  rw [drain_of_take h, hconv]

/-- What every turn of the queue keeps holds at its end, and then nothing waits. -/
theorem drain_keeps {I : Conversion → Prop}
    (hturn : ∀ s d t c, I s → s.takePending? = some (d, t) → converters.for? d = .ok c →
      I (t.convert env strategy c d))
    {s t : Conversion} (h : s.drain env strategy converters = .ok t) (hs : I s) :
    I t ∧ t.pending = [] := by
  fun_induction drain env strategy converters s with
  | case1 s hnone =>
      obtain rfl := Except.ok.inj h
      refine ⟨hs, ?_⟩
      unfold takePending? at hnone
      split at hnone
      · assumption
      · simp at hnone
  | case2 s d t' htake e hconv => simp at h
  | case3 s d t' htake c hconv _ ih => exact ih h (hturn s d t' c hs htake hconv)

/-- The queue fails only at a type that waits longest and has no converter, and until then every turn
has kept what it keeps. -/
theorem drain_fails {I : Conversion → Prop} {e : Error}
    (hturn : ∀ s d t c, I s → s.takePending? = some (d, t) → converters.for? d = .ok c →
      I (t.convert env strategy c d))
    {s : Conversion} (h : s.drain env strategy converters = .error e) (hs : I s) :
    ∃ u d t, I u ∧ u.takePending? = some (d, t) ∧ converters.for? d = .error e := by
  fun_induction drain env strategy converters s with
  | case1 s hnone => simp at h
  | case2 s d t' htake e' hconv =>
      obtain rfl := Except.error.inj h
      exact ⟨s, d, t', hs, htake, hconv⟩
  | case3 s d t' htake c hconv _ ih => exact ih h (hturn s d t' c hs htake hconv)

theorem moves_drain {s t : Conversion} (h : s.drain env strategy converters = .ok t) :
    Moves env s t := by
  have hkeep := drain_keeps (I := fun u => Moves env s u)
    (fun u d u' c hu htake _ => (hu.trans (moves_takePending htake)).trans (moves_convert u' c d))
    h .refl
  exact hkeep.1

theorem moves_prepareAll (c : Converter) (types : List Descriptor) (s : Conversion) :
    Moves env s (s.prepareAll env c types).2 := by
  induction types generalizing s with
  | nil => exact .refl
  | cons d rest ih => exact (moves_register s d c.shell).trans (ih _)

theorem moves_convertRole {c : Converter} {types : List Descriptor} {s t : Conversion}
    (h : s.convertRole env strategy converters c types = .ok t) : Moves env s t :=
  ((moves_prepareAll c types s).trans (moves_converts c _ _)).trans (moves_drain h)

/-- The output of a conversion so far. -/
def graph (s : Conversion) : Graph := { modules := s.modules, table := s.table }

end Conversion

/-! ## Runs -/

namespace Setup

open Conversion (Moves)

variable {s : Setup} {discovery : Discovery}

/-- The classification that a run over a discovery works with. -/
def classified (s : Setup) (discovery : Discovery) : Classification :=
  s.classification (index discovery) discovery.candidates

/-- A run in terms of the classification that it works with. -/
theorem run_eq (s : Setup) (discovery : Discovery) : s.run discovery = do
    s.checkConverters (s.classified discovery)
    let state ← s.convertAll (index discovery) (s.classified discovery)
    return {
      graph := { modules := state.modules, table := state.table }
      warnings := s.earlyWarnings discovery (index discovery) (s.classified discovery) ++
        state.warnings } := rfl

/-- The states of a run: with its modules created, and after each of its three passes. -/
structure Passes (s : Setup) (discovery : Discovery) (start enums models final : Conversion) :
    Prop where
  checked : s.checkConverters (s.classified discovery) = .ok ()
  created : Moves (s.env (index discovery)) {} start ∧ start.table = {} ∧ start.pending = []
  enumsDone : s.convertRole (index discovery) (some .enum) (s.classified discovery).enums start =
    .ok enums
  modelsDone : s.convertRole (index discovery) s.converters.model
    (s.classified discovery).models enums = .ok models
  restsDone : s.convertRole (index discovery) s.converters.rest
    (s.classified discovery).rests models = .ok final

theorem place_spec (env : Env) (types : List Descriptor) (state : Conversion) :
    Moves env state (types.foldl (Conversion.place env) state) ∧
      (types.foldl (Conversion.place env) state).table = state.table ∧
      (types.foldl (Conversion.place env) state).pending = state.pending := by
  induction types generalizing state with
  | nil => exact ⟨.refl, rfl, rfl⟩
  | cons d rest ih =>
      obtain ⟨hmoves, htable, hpending⟩ := ih (state.place env d)
      exact ⟨(Relation.ReflTransGen.single (.place state d)).trans hmoves, htable, hpending⟩

/-- The state in which a run begins to convert: the modules of all classified types are there. -/
def start (s : Setup) (index : Index) (c : Classification) : Conversion :=
  ((c.enums.toList ++ c.models.toList ++ c.rests.toList).filterMap index.find?).foldl
    (Conversion.place (s.env index)) {}

/-- A successful run has passed the check and the three passes, one after the other. -/
theorem exists_states {outcome : Outcome} (h : s.run discovery = .ok outcome) :
    s.checkConverters (s.classified discovery) = .ok () ∧
      ∃ enums models final,
        s.convertRole (index discovery) (some .enum) (s.classified discovery).enums
          (s.start (index discovery) (s.classified discovery)) = .ok enums ∧
        s.convertRole (index discovery) s.converters.model (s.classified discovery).models enums =
          .ok models ∧
        s.convertRole (index discovery) s.converters.rest (s.classified discovery).rests models =
          .ok final ∧
        outcome.graph = final.graph := by
  simp only [run, bind, Except.bind] at h
  split at h
  · simp at h
  rename_i _ hchecked
  split at h
  · simp at h
  rename_i _ final hall
  obtain rfl := Except.ok.inj h
  simp only [convertAll, bind, Except.bind] at hall
  split at hall
  · simp at hall
  rename_i _ enums henums
  split at hall
  · simp at hall
  rename_i _ models hmodels
  exact ⟨hchecked, enums, models, final, henums, hmodels, hall, rfl⟩

/-- A successful run goes through its passes, and its graph is that of the last state. -/
theorem exists_passes {outcome : Outcome} (h : s.run discovery = .ok outcome) :
    ∃ start enums models final, s.Passes discovery start enums models final ∧
      outcome.graph = final.graph := by
  obtain ⟨hchecked, enums, models, final, henums, hmodels, hrests, hgraph⟩ := exists_states h
  exact ⟨_, enums, models, final, ⟨hchecked, place_spec _ _ _, henums, hmodels, hrests⟩, hgraph⟩

theorem moves_convertRole {index : Index} {converter : Option Converter} {names : Names}
    {state t : Conversion} (h : s.convertRole index converter names state = .ok t) :
    Moves (s.env index) state t := by
  cases converter with
  | none =>
      obtain rfl := Except.ok.inj h
      exact .refl
  | some c => exact Conversion.moves_convertRole h

theorem Passes.moves {start enums models final : Conversion}
    (h : s.Passes discovery start enums models final) :
    Moves (s.env (index discovery)) {} final :=
  ((h.created.1.trans (moves_convertRole h.enumsDone)).trans (moves_convertRole h.modelsDone)).trans
    (moves_convertRole h.restsDone)

/-- A role with types has a converter once the check has passed. -/
theorem converter_of_checked {c : Classification} (h : s.checkConverters c = .ok ()) :
    (c.models.isEmpty = true ∨ ∃ m, s.converters.model = some m) ∧
      (c.rests.isEmpty = true ∨ ∃ r, s.converters.rest = some r) := by
  unfold checkConverters at h
  split at h
  · simp at h
  rename_i hmodel
  split at h
  · simp at h
  rename_i hrest
  constructor
  · cases hm : s.converters.model with
    | none => exact Or.inl (by simpa [hm] using hmodel)
    | some m => exact Or.inr ⟨m, rfl⟩
  · cases hr : s.converters.rest with
    | none => exact Or.inl (by simpa [hr] using hrest)
    | some r => exact Or.inr ⟨r, rfl⟩

end Setup

end TypeGraph
