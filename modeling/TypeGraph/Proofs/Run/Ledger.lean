import Mathlib.Data.List.Perm.Subperm
import TypeGraph.Proofs.Run.Complete

/-!
# Every declared type is converted once

A run is recorded: beside its states goes a ledger of the types that each pass registers first, of those
that are put into the queue and taken from it, and of those handed to a converter. The states are those of
the run (`Setup.result_record`). Through every operation the ledger stays balanced (`Recorded.Balanced`):
the table holds what was registered and what was queued, the queue is what was put into it and not taken
yet, and all that was registered or taken is converted or about to be. Since sources in the table are
distinct, nothing is queued twice or converted twice, and the queue can never give more types than the
index knows, however they refer to each other.
-/

namespace TypeGraph

/-! ## Recorded runs -/

/-- What has happened to source types so far, by name and in order. -/
structure Ledger where
  /-- Those newly registered by the first phase of a pass. -/
  prepared : List String := []
  /-- Those put into the queue. -/
  queued : List String := []
  /-- Those taken from the queue. -/
  taken : List String := []
  /-- Those handed to a converter. -/
  converted : List String := []

/-- A conversion and what has happened in it. -/
structure Recorded where
  state : Conversion := {}
  ledger : Ledger := {}

namespace Recorded

variable (env : Env) (strategy : Nullability) (converters : Converters)

/-- Goes on to a later state. What stands behind those that waited before was put into the queue. -/
def advance (x : Recorded) (after : Conversion) : Recorded where
  state := after
  ledger := { x.ledger with
    queued := x.ledger.queued ++ (after.pending.drop x.state.pending.length).map (·.name) }

/-- The first phase of a pass: the types registered, and what comes after. -/
def prepareAll (c : Converter) (types : List Descriptor) (x : Recorded) : List Descriptor × Recorded :=
  let (registered, after) := x.state.prepareAll env c types
  let y := x.advance after
  (registered,
    { y with ledger := { y.ledger with prepared := y.ledger.prepared ++ registered.map (·.name) } })

/-- Hands a type to a converter. -/
def convert (c : Converter) (x : Recorded) (d : Descriptor) : Recorded :=
  let y := x.advance (x.state.convert env strategy c d)
  { y with ledger := { y.ledger with converted := y.ledger.converted ++ [d.name] } }

/-- Takes a type from the queue. -/
def take (x : Recorded) (d : Descriptor) (after : Conversion) : Recorded where
  state := after
  ledger := { x.ledger with taken := x.ledger.taken ++ [d.name] }

/-- Converts the types in the queue, until none is left or one has no converter. -/
def drain (x : Recorded) : Recorded × Option Error :=
  match h : x.state.takePending? with
  | none => (x, none)
  | some (d, t) =>
    match converters.for? d with
    | .error e => (x.take d t, some e)
    | .ok c =>
      have : (t.convert env strategy c d).load env < x.state.load env :=
        Nat.lt_of_le_of_lt (Conversion.load_convert_le env strategy t c d)
          (Conversion.load_takePending_lt env h)
      drain ((x.take d t).convert env strategy c d)
termination_by x.state.load env

/-- A whole pass. -/
def convertRole (c : Converter) (types : List Descriptor) (x : Recorded) : Recorded × Option Error :=
  let (registered, y) := x.prepareAll env c types
  (registered.foldl (convert env strategy c) y).drain env strategy converters

/-- Goes on, unless something has failed. -/
def andThen (next : Recorded → Recorded × Option Error) :
    Recorded × Option Error → Recorded × Option Error
  | (x, none) => next x
  | (x, some e) => (x, some e)

/-- The last state, or what has failed. -/
def result : Recorded × Option Error → Except Error Conversion
  | (x, none) => .ok x.state
  | (_, some e) => .error e

end Recorded

namespace Setup

/-- A recorded pass over the types of a role, if there is a converter for it. -/
def recordRole (s : Setup) (index : Index) (converter : Option Converter) (names : Names)
    (x : Recorded) : Recorded × Option Error :=
  match converter with
  | none => (x, none)
  | some c =>
    x.convertRole (s.env index) s.nullability s.converters c (names.toList.filterMap index.find?)

/-- The passes of a run, recorded. -/
def recordAll (s : Setup) (index : Index) (cl : Classification) : Recorded × Option Error :=
  Recorded.andThen (s.recordRole index s.converters.rest cl.rests)
    (Recorded.andThen (s.recordRole index s.converters.model cl.models)
      (s.recordRole index (some .enum) cl.enums { state := s.start index cl }))

/-- A run, recorded. -/
def record (s : Setup) (discovery : Discovery) : Recorded × Option Error :=
  match s.checkConverters (s.classified discovery) with
  | .error e => ({}, some e)
  | .ok () => s.recordAll (index discovery) (s.classified discovery)

end Setup

/-! ## Recording changes nothing -/

namespace Recorded

variable {env : Env} {strategy : Nullability} {converters : Converters} {c : Converter}

theorem result_drain (x : Recorded) :
    result (x.drain env strategy converters) = x.state.drain env strategy converters := by
  fun_induction drain env strategy converters x with
  | case1 x hnone => exact (Conversion.drain_of_none hnone).symm
  | case2 x d t htake e hconv => exact (Conversion.drain_of_error htake hconv).symm
  | case3 x d t htake c hconv _ ih => exact ih.trans (Conversion.drain_of_some htake hconv).symm

theorem state_converts (types : List Descriptor) (x : Recorded) :
    (types.foldl (convert env strategy c) x).state =
      types.foldl (fun s d => s.convert env strategy c d) x.state := by
  induction types generalizing x with
  | nil => rfl
  | cons d rest ih => exact ih (x.convert env strategy c d)

theorem result_convertRole (types : List Descriptor) (x : Recorded) :
    result (x.convertRole env strategy converters c types) =
      x.state.convertRole env strategy converters c types := by
  rw [convertRole, Conversion.convertRole]
  simp only [result_drain, state_converts]
  rfl

theorem result_andThen {next : Recorded → Recorded × Option Error}
    {go : Conversion → Except Error Conversion} (h : ∀ x, result (next x) = go x.state)
    (y : Recorded × Option Error) : result (andThen next y) = result y >>= go := by
  obtain ⟨x, e⟩ := y
  cases e with
  | none => exact h x
  | some e => rfl

end Recorded

namespace Setup

theorem result_recordRole (s : Setup) (index : Index) (converter : Option Converter) (names : Names)
    (x : Recorded) : Recorded.result (s.recordRole index converter names x) =
      s.convertRole index converter names x.state := by
  cases converter with
  | none => rfl
  | some c => exact Recorded.result_convertRole _ x

theorem result_recordAll (s : Setup) (index : Index) (cl : Classification) :
    Recorded.result (s.recordAll index cl) = s.convertAll index cl := by
  rw [recordAll, Recorded.result_andThen (s.result_recordRole index _ _),
    Recorded.result_andThen (s.result_recordRole index _ _), result_recordRole]
  simp only [convertAll, start, bind_assoc]

/-- The recorded run is the run. -/
theorem result_record (s : Setup) (discovery : Discovery) :
    (s.run discovery).map (·.graph) =
      (Recorded.result (s.record discovery)).map Conversion.graph := by
  rw [run_eq, record]
  cases s.checkConverters (s.classified discovery) with
  | error e => rfl
  | ok u =>
      simp only [result_recordAll]
      cases s.convertAll (index discovery) (s.classified discovery) <;> rfl

end Setup

/-! ## What is put into the queue -/

namespace Conversion

variable {env : Env} {s t u : Conversion} {added more : List Descriptor}

/-- Between two states known types are registered and put into the queue, and nothing else is done to
either. -/
structure Queues (env : Env) (s t : Conversion) (added : List Descriptor) : Prop where
  pending : t.pending = s.pending ++ added
  sources : t.table.sources = s.table.sources ++ added.map (·.name)
  known : ∀ d ∈ added, env.index.find? d.name = some d

theorem Queues.refl (s : Conversion) : Queues env s s [] :=
  ⟨by simp, by simp, by simp⟩

theorem Queues.trans (h : Queues env s t added) (h' : Queues env t u more) :
    Queues env s u (added ++ more) := by
  refine ⟨by rw [h'.pending, h.pending, List.append_assoc], ?_, ?_⟩
  · rw [h'.sources, h.sources, List.map_append, List.append_assoc]
  · intro d hd
    rcases List.mem_append.mp hd with hmem | hmem
    · exact h.known d hmem
    · exact h'.known d hmem

theorem queues_need (env : Env) (s : Conversion) (name : String) :
    ∃ added, Queues env s (s.need env name) added := by
  rcases need_cases env s name with ⟨_, heq⟩ | ⟨_, _, heq⟩ | ⟨d, hfind, rfl, _, hacc, heq⟩
  · rw [heq]
    exact ⟨[], .refl s⟩
  · rw [heq]
    exact ⟨[], by simp, by simp, by simp⟩
  · obtain ⟨new, hsource, _, hdecls⟩ := exists_registered (demandShell d) hacc
    rw [heq]
    refine ⟨[d], by simp [demand], ?_, by simpa using hfind⟩
    show (s.register env d (demandShell d)).table.sources = _
    rw [Table.sources, hdecls, List.map_append, List.map_singleton, hsource]
    rfl

theorem queues_needAll (env : Env) (s : Conversion) (names : List String) :
    ∃ added, Queues env s (s.needAll env names) added := by
  induction names generalizing s with
  | nil => exact ⟨[], .refl s⟩
  | cons name rest ih =>
      obtain ⟨first, hfirst⟩ := queues_need env s name
      obtain ⟨others, hothers⟩ := ih (s.need env name)
      exact ⟨first ++ others, hfirst.trans hothers⟩

/-- A body is filled in, which registers and queues nothing, after the references were seen to. -/
theorem queues_convert (env : Env) (strategy : Nullability) (s : Conversion) (c : Converter)
    (d : Descriptor) : ∃ added, Queues env s (s.convert env strategy c d) added := by
  rcases convert_cases env strategy s c d with ⟨_, _, heq⟩ | ⟨_, heq⟩
  · obtain ⟨added, hpending, hsources, hknown⟩ :=
      queues_needAll env s ((c.references d).flatMap env.needs)
    rw [heq]
    exact ⟨added, hpending, (Table.sources_populate ..).trans hsources, hknown⟩
  · rw [heq]
    exact ⟨[], .refl s⟩

end Conversion

/-! ## Balance -/

namespace Recorded

open Conversion (Queues)

variable {env : Env} {strategy : Nullability} {converters : Converters} {c : Converter}
  {x : Recorded} {t : Conversion} {d : Descriptor} {todo added : List Descriptor}

/-- The ledger agrees with the state, when some types are still to be converted besides those in the
queue. -/
structure Balanced (env : Env) (todo : List Descriptor) (x : Recorded) : Prop where
  sources : x.state.table.sources.Nodup
  /-- What has a declaration was registered at first or queued. -/
  declared : (x.ledger.prepared ++ x.ledger.queued).Perm x.state.table.sources
  /-- What was queued is taken or waits. -/
  waits : x.ledger.queued = x.ledger.taken ++ x.state.pending.map (·.name)
  /-- What was registered at first or taken is converted or still to be. -/
  converted : (x.ledger.converted ++ todo.map (·.name)).Perm (x.ledger.prepared ++ x.ledger.taken)
  known : ∀ name ∈ x.ledger.queued, ∃ d, env.index.find? name = some d

theorem Balanced.empty (htable : x.state.table = {}) (hpending : x.state.pending = [])
    (hledger : x.ledger = {}) : x.Balanced env [] := by
  refine ⟨?_, ?_, ?_, ?_, ?_⟩ <;> simp [htable, hpending, hledger, Table.sources]

theorem Balanced.perm_converted (h : x.Balanced env []) :
    x.ledger.converted.Perm (x.ledger.prepared ++ x.ledger.taken) := by
  simpa using h.converted

/-- Going on to a state with more in the queue keeps the balance. -/
theorem Balanced.advance (h : x.Balanced env todo) (hqueues : Queues env x.state t added)
    (hsources : t.table.sources.Nodup) : (x.advance t).Balanced env todo := by
  have hqueued : (x.advance t).ledger.queued = x.ledger.queued ++ added.map (·.name) := by
    simp [Recorded.advance, hqueues.pending]
  refine ⟨hsources, ?_, ?_, h.converted, ?_⟩
  · rw [hqueued]
    show (x.ledger.prepared ++ (x.ledger.queued ++ _)).Perm t.table.sources
    rw [hqueues.sources, ← List.append_assoc]
    exact h.declared.append_right _
  · rw [hqueued]
    show _ = x.ledger.taken ++ t.pending.map (·.name)
    rw [hqueues.pending, List.map_append, ← List.append_assoc, ← h.waits]
  · rw [hqueued]
    intro name hname
    rcases List.mem_append.mp hname with hold | hnew
    · exact h.known name hold
    · obtain ⟨d, hd, rfl⟩ := List.mem_map.mp hnew
      exact ⟨d, hqueues.known d hd⟩

/-- Handing a type to a converter takes it from those still to be converted. -/
theorem Balanced.convert (h : x.Balanced env (d :: todo)) :
    (x.convert env strategy c d).Balanced env todo := by
  obtain ⟨added, hqueues⟩ := Conversion.queues_convert env strategy x.state c d
  have hsources : (x.state.convert env strategy c d).table.sources.Nodup :=
    Conversion.nodup_sources_of_moves (Conversion.moves_convert x.state c d) h.sources
  have hadvance := h.advance hqueues hsources
  refine ⟨hadvance.sources, hadvance.declared, hadvance.waits, ?_, hadvance.known⟩
  have hconverted := hadvance.converted
  rw [List.map_cons, ← List.singleton_append, ← List.append_assoc] at hconverted
  exact hconverted

theorem Balanced.converts (h : x.Balanced env todo) :
    (todo.foldl (Recorded.convert env strategy c) x).Balanced env [] := by
  induction todo generalizing x with
  | nil => exact h
  | cons d rest ih => exact ih h.convert

/-- Taking the type that waits longest makes it the one to be converted. -/
theorem Balanced.take (h : x.Balanced env []) (htake : x.state.takePending? = some (d, t)) :
    (x.take d t).Balanced env [d] := by
  obtain ⟨hpending, ht⟩ := Conversion.takePending?_eq_some htake
  have htable : t.table = x.state.table := by rw [ht]
  refine ⟨?_, ?_, ?_, ?_, h.known⟩
  · show t.table.sources.Nodup
    rw [htable]
    exact h.sources
  · show (x.ledger.prepared ++ x.ledger.queued).Perm t.table.sources
    rw [htable]
    exact h.declared
  · show x.ledger.queued = x.ledger.taken ++ [d.name] ++ t.pending.map (·.name)
    rw [h.waits, hpending]
    simp
  · show (x.ledger.converted ++ [d.name]).Perm (x.ledger.prepared ++ (x.ledger.taken ++ [d.name]))
    rw [← List.append_assoc]
    exact h.perm_converted.append_right _

/-- The first phase registers types that are then to be converted, and queues none. -/
theorem Balanced.prepareAll (h : x.Balanced env []) (types : List Descriptor) :
    (x.prepareAll env c types).2.Balanced env (x.prepareAll env c types).1 := by
  obtain ⟨hpending, ⟨shells, hdecls, hnames, _⟩, _, _⟩ :=
    Conversion.prepareAll_spec env c types x.state
  have hfirst : (x.prepareAll env c types).1 = (x.state.prepareAll env c types).1 := rfl
  have hledger : (x.prepareAll env c types).2.ledger = { x.ledger with
      prepared := x.ledger.prepared ++ (x.state.prepareAll env c types).1.map (·.name) } := by
    simp [Recorded.prepareAll, Recorded.advance, hpending]
  have hsources : (x.prepareAll env c types).2.state.table.sources =
      x.state.table.sources ++ (x.state.prepareAll env c types).1.map (·.name) := by
    show (x.state.prepareAll env c types).2.table.sources = _
    rw [Table.sources, hdecls, List.map_append, hnames]
    rfl
  rw [hfirst]
  refine ⟨?_, ?_, ?_, ?_, ?_⟩
  · exact Conversion.nodup_sources_of_moves (Conversion.moves_prepareAll c types x.state) h.sources
  · rw [hledger, hsources, List.append_assoc]
    refine List.Perm.trans ?_ (h.declared.append_right _)
    rw [List.append_assoc]
    exact List.perm_append_comm.append_left _
  · rw [hledger]
    show x.ledger.queued = x.ledger.taken ++ (x.state.prepareAll env c types).2.pending.map (·.name)
    rw [hpending]
    exact h.waits
  · rw [hledger]
    refine (h.perm_converted.append_right _).trans ?_
    rw [List.append_assoc, List.append_assoc]
    exact List.perm_append_comm.append_left _
  · rw [hledger]
    exact h.known

/-- The balance of a recorded run: if nothing has failed, nothing waits and nothing is left to be
converted. -/
def Closed (env : Env) (y : Recorded × Option Error) : Prop :=
  ∃ todo, y.1.Balanced env todo ∧ (y.2 = none → todo = [] ∧ y.1.state.pending = [])

theorem Balanced.drain (h : x.Balanced env []) :
    Closed env (x.drain env strategy converters) := by
  fun_induction Recorded.drain env strategy converters x with
  | case1 x hnone =>
      refine ⟨[], h, fun _ => ⟨rfl, ?_⟩⟩
      unfold Conversion.takePending? at hnone
      split at hnone
      · assumption
      · simp at hnone
  | case2 x d t htake e hconv => exact ⟨[d], h.take htake, by simp⟩
  | case3 x d t htake c hconv _ ih => exact ih (h.take htake).convert

theorem Balanced.convertRole (h : x.Balanced env []) (types : List Descriptor) :
    Closed env (x.convertRole env strategy converters c types) :=
  (h.prepareAll types).converts.drain

/-- A run that is closed so far stays so when it goes on, unless it has failed. -/
theorem Closed.andThen {y : Recorded × Option Error} {next : Recorded → Recorded × Option Error}
    (h : Closed env y) (hnext : ∀ x : Recorded, x.Balanced env [] → x.state.pending = [] →
      Closed env (next x)) : Closed env (Recorded.andThen next y) := by
  obtain ⟨x, e⟩ := y
  obtain ⟨todo, hbalanced, hdone⟩ := h
  cases e with
  | none =>
      obtain ⟨rfl, hpending⟩ := hdone rfl
      exact hnext x hbalanced hpending
  | some e =>
      show Closed env (x, some e)
      exact ⟨todo, hbalanced, by simp⟩

/-! ## What the balance says -/

theorem Balanced.nodup (h : x.Balanced env todo) :
    (x.ledger.prepared ++ x.ledger.queued).Nodup :=
  h.declared.nodup_iff.mpr h.sources

/-- No more is taken from the queue than the index knows. -/
theorem Balanced.length_taken_le (h : x.Balanced env todo) :
    x.ledger.taken.length ≤ env.index.size := by
  have hqueued := (List.nodup_append.mp h.nodup).2.1
  rw [h.waits] at hqueued
  have htaken : x.ledger.taken.Nodup := (List.nodup_append.mp hqueued).1
  have hknown : x.ledger.taken ⊆ env.index.types.map (·.name) := by
    intro name hname
    obtain ⟨d, hfind⟩ := h.known name (h.waits ▸ List.mem_append_left _ hname)
    exact List.mem_map.mpr ⟨d, Index.mem_of_find? hfind, Index.name_of_find? hfind⟩
  calc x.ledger.taken.length ≤ (env.index.types.map (·.name)).length :=
        (List.Nodup.subperm htaken hknown).length_le
    _ = env.index.size := List.length_map _

/-- In the end the converted types are those with a declaration, each of them once. -/
theorem Balanced.count_converted (h : x.Balanced env []) (hpending : x.state.pending = [])
    (name : String) :
    x.ledger.converted.count name = if x.state.table.contains name then 1 else 0 := by
  have hwaits : x.ledger.queued = x.ledger.taken := by simpa [hpending] using h.waits
  have hconverted : x.ledger.converted.Perm x.state.table.sources :=
    (hwaits ▸ h.perm_converted).trans h.declared
  rw [hconverted.count_eq, h.sources.count]
  simp only [Table.mem_sources_iff, Table.contains_iff]

end Recorded

/-! ## Whole runs -/

namespace Setup

theorem closed_recordRole {s : Setup} {index : Index} {x : Recorded}
    (h : x.Balanced (s.env index) []) (hpending : x.state.pending = [])
    (converter : Option Converter) (names : Names) :
    Recorded.Closed (s.env index) (s.recordRole index converter names x) := by
  cases converter with
  | none => exact ⟨[], h, fun _ => ⟨rfl, hpending⟩⟩
  | some c => exact h.convertRole _

/-- Every run is closed, whether it fails or not. -/
theorem closed_record (s : Setup) (discovery : Discovery) :
    Recorded.Closed (s.env (Setup.index discovery)) (s.record discovery) := by
  unfold record
  split
  · exact ⟨[], .empty rfl rfl rfl, by simp⟩
  · obtain ⟨_, htable, hpending⟩ := place_spec (s.env (Setup.index discovery))
      (((s.classified discovery).enums.toList ++ (s.classified discovery).models.toList ++
        (s.classified discovery).rests.toList).filterMap (Setup.index discovery).find?) {}
    have hstart : Recorded.Balanced (s.env (Setup.index discovery)) []
        { state := s.start (Setup.index discovery) (s.classified discovery) } :=
      .empty htable hpending rfl
    exact ((closed_recordRole hstart hpending _ _).andThen
      fun _ hx hpending => closed_recordRole hx hpending _ _).andThen
      fun _ hx hpending => closed_recordRole hx hpending _ _

end Setup

/-- What the ledger of a run says of its queue and its conversions. -/
structure Ledger.Economical (l : Ledger) (index : Index) : Prop where
  /-- Nothing is put into the queue twice, -/
  queuedOnce : l.queued.Nodup
  /-- and nothing that the first phase of a pass has newly registered. -/
  apart : l.prepared.Disjoint l.queued
  /-- Over all passes no more is taken from the queue than the index knows. -/
  bounded : l.taken.length ≤ index.size

/-- In every run, whether it fails or not, nothing is queued twice, nothing that was registered at first is
queued, and the queue gives no more types than are known. If the run succeeds, every type with a
declaration was handed to a converter once, and no other type was. -/
theorem economical_of_run (s : Setup) (discovery : Discovery) :
    (s.run discovery).map (·.graph) =
        (Recorded.result (s.record discovery)).map Conversion.graph ∧
      (s.record discovery).1.ledger.Economical (Setup.index discovery) ∧
      ∀ outcome, s.run discovery = .ok outcome → ∀ name,
        (s.record discovery).1.ledger.converted.count name =
          if outcome.graph.table.contains name then 1 else 0 := by
  obtain ⟨todo, hbalanced, hdone⟩ := s.closed_record discovery
  have hresult := s.result_record discovery
  refine ⟨hresult, ⟨?_, ?_, hbalanced.length_taken_le⟩, ?_⟩
  · exact (List.nodup_append.mp hbalanced.nodup).2.1
  · exact List.disjoint_of_nodup_append hbalanced.nodup
  · intro outcome hrun name
    rw [hrun] at hresult
    generalize s.record discovery = y at *
    obtain ⟨x, e⟩ := y
    cases e with
    | some e => exact absurd hresult (by simp [Recorded.result, Except.map])
    | none =>
        obtain ⟨rfl, hpending⟩ := hdone rfl
        have hgraph : outcome.graph = x.state.graph := Except.ok.inj hresult
        rw [hgraph]
        exact hbalanced.count_converted hpending name

/-- The shop with the packages of its stock only. -/
def stock : Discovery := .ofTypes shopTypes ["shop.stock"]

/-- Orders are found on the way from their lines, to which they lead back, and converted once. -/
theorem economical_stock : ∃ outcome, shopSetup.run stock = .ok outcome ∧
    (shopSetup.record stock).1.ledger.Economical (Setup.index stock) ∧
    (shopSetup.record stock).1.ledger.queued = ["shop.Order"] ∧
    (shopSetup.record stock).1.ledger.converted.count "shop.Order" = 1 := by
  have hclassified : shopSetup.classified stock = shopSetup.filtered stock :=
    Setup.classified_eq_classify (by decide +kernel) (by decide +kernel)
  obtain ⟨_, heconomical, honce⟩ := economical_of_run shopSetup stock
  have hqueued : (shopSetup.record stock).1.ledger.queued = ["shop.Order"] := by
    rw [Setup.record, hclassified]
    decide +kernel
  obtain ⟨outcome, hrun, hcontains⟩ : ∃ outcome, shopSetup.run stock = .ok outcome ∧
      outcome.graph.table.contains "shop.Order" = true := by
    refine exists_outcome_of_view ?_
    rw [Setup.run_eq, hclassified]
    decide +kernel
  refine ⟨outcome, hrun, heconomical, hqueued, ?_⟩
  rw [honce outcome hrun, if_pos hcontains]

end TypeGraph
