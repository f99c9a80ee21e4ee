import TypeGraph.Proofs.Run.Locality

/-!
# Nothing is selected by accident

A filter without negation selects only what one of its conditions accepts; a conjunction of nothing would
break this, were it not told apart (`Filter.exists_leaf_of_accepts`). When no condition accepts a
candidate, a run is the one with filters that reject everything, whatever its patterns mean. Such a run
needs no converter and cannot fail: exploration and conversion start from enums, and an enum leads
nowhere. So just the enums are declared (`enums_of_unselected`).
-/

namespace TypeGraph

theorem exists_of_map_eq_ok {ε α β : Type} {x : Except ε α} {f : α → β} {b : β}
    (h : x.map f = .ok b) : ∃ a, x = .ok a ∧ f a = b := by
  cases x with
  | error e => simp [Except.map] at h
  | ok a => exact ⟨a, rfl, Except.ok.inj h⟩

/-! ## Filters -/

namespace Filter

variable {π ρ : Type} {matched : ρ → String → Bool} {d : Descriptor}

/-- What a conjunction accepts, some member of it accepts: it has one. -/
theorem anyAccepts_of_and {filters : List (Filter ρ)}
    (h : (Filter.and filters).accepts matched d = true) : anyAccepts matched d filters = true := by
  rw [accepts, Bool.and_eq_true] at h
  obtain ⟨hsome, hall⟩ := h
  cases filters with
  | nil => exact absurd hsome (by simp)
  | cons first rest =>
      -- all members accept, so the first one does
      rw [allAccept, Bool.and_eq_true] at hall
      rw [anyAccepts, hall.1, Bool.true_or]

variable {f : π → Except Error ρ}

theorem traverseAll_cons_eq_ok {filter : Filter π} {rest : List (Filter π)} {readies : List (Filter ρ)}
    (h : traverseAll f (filter :: rest) = .ok readies) :
    ∃ first others, filter.traverse f = .ok first ∧ traverseAll f rest = .ok others ∧
      readies = first :: others := by
  simp only [traverseAll, bind, Except.bind, pure, Except.pure] at h
  split at h
  · simp at h
  rename_i first hfirst
  split at h
  · simp at h
  rename_i others hothers
  exact ⟨first, others, hfirst, hothers, (Except.ok.inj h).symm⟩

mutual

/-- What a filter without negation accepts, one of its conditions accepts, whatever patterns are made of
texts and whatever they match. -/
theorem exists_leaf_of_accepts : ∀ (filter : Filter π) {ready : Filter ρ}, filter.isPositive = true →
    filter.traverse f = .ok ready → ready.accepts matched d = true →
      ∃ leaf ∈ filter.leaves, ∃ r, leaf.traverse f = .ok r ∧ r.accepts matched d = true
  | .and filters, _, hpositive, hready, haccepts => by
      rw [traverse] at hready
      rw [isPositive] at hpositive
      obtain ⟨readies, hall, rfl⟩ := exists_of_map_eq_ok hready
      rw [leaves]
      exact exists_leaf_of_anyAccepts filters hpositive hall (anyAccepts_of_and haccepts)
  | .or filters, _, hpositive, hready, haccepts => by
      rw [traverse] at hready
      rw [isPositive] at hpositive
      obtain ⟨readies, hall, rfl⟩ := exists_of_map_eq_ok hready
      rw [accepts] at haccepts
      rw [leaves]
      exact exists_leaf_of_anyAccepts filters hpositive hall haccepts
  | .not filter, _, hpositive, _, _ => by simp [isPositive] at hpositive
  | .rejectAll, ready, _, hready, haccepts | .acceptAll, ready, _, hready, haccepts
  | .typeSet _, ready, _, hready, haccepts | .hasMarker _, ready, _, hready, haccepts
  | .subtypeOf _, ready, _, hready, haccepts | .nameContains _, ready, _, hready, haccepts
  | .pattern _, ready, _, hready, haccepts =>
      ⟨_, by simp [leaves], ready, hready, haccepts⟩

theorem exists_leaf_of_anyAccepts : ∀ (filters : List (Filter π)) {readies : List (Filter ρ)},
    arePositive filters = true → traverseAll f filters = .ok readies →
      anyAccepts matched d readies = true →
        ∃ leaf ∈ leavesOf filters, ∃ r, leaf.traverse f = .ok r ∧ r.accepts matched d = true
  | [], _, _, hready, haccepts => by
      rw [traverseAll] at hready
      obtain rfl := Except.ok.inj hready
      simp [anyAccepts] at haccepts
  | filter :: rest, _, hpositive, hready, haccepts => by
      obtain ⟨first, others, hfirst, hothers, rfl⟩ := traverseAll_cons_eq_ok hready
      rw [arePositive, Bool.and_eq_true] at hpositive
      rw [anyAccepts, Bool.or_eq_true] at haccepts
      rw [leavesOf]
      rcases haccepts with hhead | htail
      · obtain ⟨leaf, hleaf, hr⟩ := exists_leaf_of_accepts filter hpositive.1 hfirst hhead
        exact ⟨leaf, List.mem_append_left _ hleaf, hr⟩
      · obtain ⟨leaf, hleaf, hr⟩ := exists_leaf_of_anyAccepts rest hpositive.2 hothers htail
        exact ⟨leaf, List.mem_append_right _ hleaf, hr⟩

end

/-- A filter without negation rejects what all of its conditions reject. -/
theorem accepts_eq_false {filter : Filter π} {ready : Filter ρ} (hpositive : filter.isPositive = true)
    (hready : filter.traverse f = .ok ready)
    (hnone : ∀ leaf ∈ filter.leaves, ∀ r, leaf.traverse f = .ok r → r.accepts matched d = false) :
    ready.accepts matched d = false := by
  rw [← Bool.not_eq_true]
  intro haccepts
  obtain ⟨leaf, hleaf, r, hr, hacc⟩ := exists_leaf_of_accepts filter hpositive hready haccepts
  exact Bool.false_ne_true ((hnone leaf hleaf r hr).symm.trans hacc)

end Filter

namespace Setup

variable {s : Setup} {discovery : Discovery} {index : Index} {t : Conversion} {names : Names}
  {name : String}

/-! ## Runs that select nothing -/

/-- A pass over nothing changes nothing. -/
theorem convertRole_of_empty (s : Setup) (index : Index) (converter : Option Converter)
    (hnames : names = ∅) (ht : t.pending = []) :
    s.convertRole index converter names t = .ok t := by
  subst hnames
  have htake : t.takePending? = none := by rw [Conversion.takePending?, ht]
  cases converter with
  | none => rfl
  | some c => exact Conversion.drain_of_none htake

/-- The types that a run classifies are the first candidates of their identities. -/
theorem mem_found_iff {d : Descriptor} :
    d ∈ discovery.candidates.filterMap (fun d => (Setup.index discovery).find? d.name) ↔
      discovery.candidates.find? (·.name == d.name) = some d := by
  rw [List.mem_filterMap]
  constructor
  · rintro ⟨o, ho, hfind⟩
    have hsome : (discovery.candidates.find? (·.name == o.name)).isSome = true := by
      rw [List.find?_isSome]
      exact ⟨o, ho, beq_self_eq_true _⟩
    obtain ⟨first, hfirst⟩ := Option.isSome_iff_exists.mp hsome
    obtain rfl : first = d := Option.some.inj ((find?_index_of_candidate hfirst).symm.trans hfind)
    rw [Index.name_of_find? hfind]
    exact hfirst
  · intro hfirst
    exact ⟨d, List.mem_of_find?_eq_some hfirst, find?_index_of_candidate hfirst⟩

theorem mem_filtered_enums_iff : name ∈ (s.filtered discovery).enums ↔
    ∃ d, discovery.candidates.find? (·.name == name) = some d ∧ d.isEnum = true := by
  refine Classification.mem_named_iff.trans (exists_congr fun d => ?_)
  rw [mem_found_iff]
  constructor
  · rintro ⟨hfirst, henum, rfl⟩
    exact ⟨hfirst, henum⟩
  · rintro ⟨hfirst, henum⟩
    have hname : d.name = name := by simpa using List.find?_some hfirst
    exact ⟨hname ▸ hfirst, henum, hname⟩

section

variable (hmodels : (s.classified discovery).models = ∅) (hrests : (s.classified discovery).rests = ∅)

include hmodels hrests

/-- Without models and types with endpoints a run succeeds, with whichever converters. -/
theorem exists_outcome_of_enums : ∃ outcome, s.run discovery = .ok outcome := by
  have hsound := sound_classified s discovery
  have hchecked : s.checkConverters (s.classified discovery) = .ok () := by
    refine checkConverters_eq_ok_iff.mpr ⟨?_, ?_⟩
    · rintro ⟨hsome, _⟩
      rw [hmodels] at hsome
      exact Bool.false_ne_true hsome.symm
    · rintro ⟨hsome, _⟩
      rw [hrests] at hsome
      exact Bool.false_ne_true hsome.symm
  obtain ⟨start, htable, hpending, hpasses⟩ :=
    exists_start s (Setup.index discovery) (s.classified discovery)
  obtain ⟨final, henums⟩ := exists_enums hsound (settled_of_empty (s := s) htable hpending)
  have hnone := pending_convertRole henums hpending
  have hall : s.convertAll (Setup.index discovery) (s.classified discovery) = .ok final := by
    have hfirst := convertRole_of_empty s (Setup.index discovery) s.converters.model hmodels hnone
    have hsecond := convertRole_of_empty s (Setup.index discovery) s.converters.rest hrests hnone
    rw [hpasses, henums]
    simp only [bind, Except.bind, hfirst, hsecond]
  rw [run_eq, hchecked, hall]
  exact ⟨_, rfl⟩

/-- From enums conversion goes nowhere. -/
theorem root_of_reaches
    (h : (s.env (Setup.index discovery)).Reaches
      (s.Converts (Setup.index discovery) (s.classified discovery))
      (s.IsRoot (s.classified discovery)) name) : s.IsRoot (s.classified discovery) name := by
  obtain ⟨x, hx, hpath⟩ := h
  induction hpath with
  | refl => exact hx
  | tail _ hstep ih =>
      obtain ⟨d, k, hfind, hto, hneeds, _⟩ := hstep
      have henum : d.isEnum = true := by
        rcases Classification.contains_iff.mp ih.1 with hin | hin | hin
        · obtain ⟨o, ho, henum⟩ := (sound_classified s discovery).enums _ hin
          rwa [Option.some.inj (hfind.symm.trans ho)]
        · rw [hmodels] at hin
          exact absurd hin (Names.not_mem_empty _)
        · rw [hrests] at hin
          exact absurd hin (Names.not_mem_empty _)
      -- an enum goes to its own converter, which resolves no reference
      obtain rfl : k = .enum := hto.unique (.enum henum)
      simp [Converter.references] at hneeds

theorem mem_sources_iff_of_enums {outcome : Outcome} (h : s.run discovery = .ok outcome) :
    outcome.graph.table.sources.Nodup ∧ ∀ name, name ∈ outcome.graph.table.sources ↔
      name ∈ (s.classified discovery).enums ∧ s.custom.contains name = false := by
  obtain ⟨final, hgraph, hsettled, hdeclared⟩ := settled_of_run h
  have hroot : ∀ name, s.IsRoot (s.classified discovery) name ↔
      name ∈ (s.classified discovery).enums ∧ s.custom.contains name = false := by
    intro name
    rw [IsRoot, Classification.contains_iff, hmodels, hrests]
    simp
  rw [hgraph]
  refine ⟨hsettled.sources, fun name => ?_⟩
  rw [← hroot]
  constructor
  · intro hname
    obtain ⟨e, he, rfl⟩ := Table.mem_sources_iff.mp hname
    exact root_of_reaches hmodels hrests (hsettled.reached e he)
  · intro hname
    exact Table.mem_sources_iff.mpr (Table.contains_iff.mp (hdeclared name hname))

end

/-- The classification of the candidates by the filters, where `matched` tells which texts a pattern
accepts. -/
def filteredWith (s : Setup) (matched : Pattern → String → Bool) (discovery : Discovery) :
    Classification :=
  .ofTypes (fun d => s.modelFilter.accepts matched d) (fun d => s.restFilter.accepts matched d)
    (discovery.candidates.filterMap fun d => (Setup.index discovery).find? d.name)

/-- The run over a discovery, where `matched` tells which texts a pattern accepts. -/
def runWith (s : Setup) (matched : Pattern → String → Bool) (discovery : Discovery) :
    Except Error Outcome := do
  let index := Setup.index discovery
  let c := (s.filteredWith matched discovery).explore (s.surroundings discovery)
  s.checkConverters c
  let state ← s.convertAll index c
  return {
    graph := { modules := state.modules, table := state.table }
    warnings := s.earlyWarnings discovery index c ++ state.warnings }

theorem runWith_accepts (s : Setup) (discovery : Discovery) :
    s.runWith Pattern.accepts discovery = s.run discovery := rfl

/-- The setup with filters that reject everything. -/
def rejecting (s : Setup) : Setup := { s with modelFilter := .rejectAll, restFilter := .rejectAll }

/-- Filters that accept no candidate give no roles but that of an enum. -/
theorem filteredWith_eq (s : Setup) {matched : Pattern → String → Bool}
    (hnone : ∀ d ∈ discovery.candidates, s.modelFilter.accepts matched d = false ∧
      s.restFilter.accepts matched d = false) :
    s.filteredWith matched discovery = { enums := (s.filtered discovery).enums } := by
  have hnamed : ∀ accepted : Descriptor → Bool,
      (∀ d ∈ discovery.candidates, accepted d = false) →
      Classification.named (discovery.candidates.filterMap fun d =>
        (Setup.index discovery).find? d.name) (fun d => !d.isEnum && accepted d) = ∅ := by
    intro accepted hrejects
    refine Names.ext_mem fun name => ⟨fun hname => ?_, fun hname => absurd hname (by simp)⟩
    obtain ⟨d, hd, hcondition, _⟩ := Classification.mem_named_iff.mp hname
    have hmem := List.mem_of_find?_eq_some (mem_found_iff.mp hd)
    rw [hrejects d hmem, Bool.and_false] at hcondition
    exact absurd hcondition Bool.false_ne_true
  rw [filteredWith, Classification.ofTypes, hnamed _ fun d hd => (hnone d hd).1,
    hnamed _ fun d hd => (hnone d hd).2]
  rfl

/-- Filters that accept no candidate are as good as filters that reject everything. -/
theorem runWith_eq_rejecting {matched : Pattern → String → Bool}
    (hnone : ∀ d ∈ discovery.candidates, s.modelFilter.accepts matched d = false ∧
      s.restFilter.accepts matched d = false) :
    s.runWith matched discovery = s.rejecting.run discovery := by
  have hrejecting : s.rejecting.filteredWith Pattern.accepts discovery =
      { enums := (s.filtered discovery).enums } := filteredWith_eq s.rejecting fun _ _ => ⟨rfl, rfl⟩
  have hsame := (filteredWith_eq s hnone).trans hrejecting.symm
  rw [runWith, hsame]
  rfl

/-- With filters that reject everything exploration finds nothing. -/
theorem classified_rejecting (s : Setup) (discovery : Discovery) :
    s.rejecting.classified discovery = { enums := (s.filtered discovery).enums } := by
  have hfiltered : s.rejecting.filteredWith Pattern.accepts discovery =
      { enums := (s.filtered discovery).enums } := filteredWith_eq s.rejecting fun _ _ => ⟨rfl, rfl⟩
  change s.rejecting.filtered discovery = _ at hfiltered
  rw [classified_eq_classify, hfiltered]
  · rw [hfiltered]
    exact fun y hy => absurd hy List.not_mem_nil
  · rw [hfiltered]
    exact fun y hy => absurd hy List.not_mem_nil

end Setup

/-- Nothing is selected by accident. When the filters of a configuration have no negation and none of
their conditions accepts a candidate, a run succeeds with whichever converters, and just those enums are
declared that are the first candidates of their identities and have no chosen target. And whenever a
filter without negation accepts a type, one of its conditions does. Both hold whatever patterns match. -/
theorem enums_of_unselected :
    (∀ {c : Configuration} {s : Setup}, c.setup = .ok s → c.modelFilter.isPositive = true →
      c.restFilter.isPositive = true → ∀ (matched : Pattern → String → Bool) (discovery : Discovery),
      (∀ d ∈ discovery.candidates, ∀ leaf ∈ c.modelFilter.leaves ++ c.restFilter.leaves,
        ∀ r, leaf.ready = .ok r → r.accepts matched d = false) →
      ∃ outcome, s.runWith matched discovery = .ok outcome ∧ outcome.graph.table.sources.Nodup ∧
        ∀ name, name ∈ outcome.graph.table.sources ↔
          ∃ d, discovery.candidates.find? (·.name == name) = some d ∧ d.isEnum = true ∧
            s.custom.contains name = false) ∧
    ∀ {ρ : Type} (compile : String → Except Error ρ) (matched : ρ → String → Bool)
      {spec : FilterSpec} {filter : Filter ρ} {d : Descriptor}, spec.isPositive = true →
        spec.traverse compile = .ok filter → filter.accepts matched d = true →
          ∃ leaf ∈ spec.leaves, ∃ r, leaf.traverse compile = .ok r ∧ r.accepts matched d = true := by
  refine ⟨?_, fun _ _ spec _ _ hpositive hready haccepts =>
    Filter.exists_leaf_of_accepts spec hpositive hready haccepts⟩
  intro c s hsetup hmodel hrest matched discovery hnone
  obtain ⟨hmodelReady, hrestReady⟩ := Configuration.filters_of_setup hsetup
  have hrejects : ∀ d ∈ discovery.candidates, s.modelFilter.accepts matched d = false ∧
      s.restFilter.accepts matched d = false := by
    intro d hd
    constructor
    · refine Filter.accepts_eq_false hmodel hmodelReady fun leaf hleaf => ?_
      exact hnone d hd leaf (List.mem_append_left _ hleaf)
    · refine Filter.accepts_eq_false hrest hrestReady fun leaf hleaf => ?_
      exact hnone d hd leaf (List.mem_append_right _ hleaf)
  -- so the run is one that rejects everything, and exploration leaves it with the enums
  have hclassified := Setup.classified_rejecting s discovery
  have hmodels : (s.rejecting.classified discovery).models = ∅ := by rw [hclassified]
  have hrests : (s.rejecting.classified discovery).rests = ∅ := by rw [hclassified]
  obtain ⟨outcome, hrun⟩ := Setup.exists_outcome_of_enums hmodels hrests
  obtain ⟨hnodup, hsources⟩ := Setup.mem_sources_iff_of_enums hmodels hrests hrun
  refine ⟨outcome, (Setup.runWith_eq_rejecting hrejects).trans hrun, hnodup, fun name => ?_⟩
  rw [hsources, hclassified, Setup.mem_filtered_enums_iff]
  simp only [← exists_and_right, and_assoc]
  rfl

/-- A shop that selects nothing: its conjunctions are empty, its set of types names no type of it, and it
has no converters. -/
def closedShop : Configuration :=
  { packages := ["shop"]
    modelFilter := .or [.and [], .and [.or [], .typeSet ["Desk"]]], restFilter := .and [] }

theorem enums_of_closedShop :
    (∃ s outcome, closedShop.setup = .ok s ∧ s.run shopInput = .ok outcome ∧
      "shop.stock.Order" ∈ outcome.graph.table.sources ∧
        "shop.Order" ∉ outcome.graph.table.sources) ∧
    ∃ leaf ∈ (Filter.or [.and [], .pattern "shop.Desk"]).leaves, ∃ r,
      leaf.traverse Except.ok = .ok r ∧
        r.accepts (fun text name => text == name) { name := "shop.Desk", kind := .classType } = true := by
  constructor
  · have hnone : ∀ d ∈ shopInput.candidates,
        ∀ leaf ∈ closedShop.modelFilter.leaves ++ closedShop.restFilter.leaves,
          ∀ r, leaf.ready = .ok r → r.accepts Pattern.accepts d = false := by
      intro d hd leaf hleaf r hr
      obtain rfl : leaf = .typeSet ["Desk"] := by
        simpa [closedShop, Filter.leaves, Filter.leavesOf] using hleaf
      obtain rfl := Except.ok.inj hr
      revert d
      decide +kernel
    obtain ⟨outcome, hrun, _, hsources⟩ := enums_of_unselected.1 (c := closedShop) rfl (by decide)
      (by decide) Pattern.accepts shopInput hnone
    rw [Setup.runWith_accepts] at hrun
    refine ⟨_, outcome, rfl, hrun, (hsources _).mpr ?_, fun hin => ?_⟩
    · have hfirst : (shopInput.candidates.find? (·.name == "shop.stock.Order")).any (·.isEnum) =
          true := by decide +kernel
      obtain ⟨d, hd, henum⟩ := (Option.any_eq_true _ _).mp hfirst
      exact ⟨d, hd, henum, rfl⟩
    · have hfirst : (shopInput.candidates.find? (·.name == "shop.Order")).any (·.isEnum) = false := by
        decide +kernel
      obtain ⟨d, hd, henum, _⟩ := (hsources _).mp hin
      rw [hd] at hfirst
      exact Bool.false_ne_true (hfirst.symm.trans henum)
  · exact enums_of_unselected.2 Except.ok (fun text name => text == name) (by decide) rfl
      (by decide +kernel)

end TypeGraph
