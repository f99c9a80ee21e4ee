import TypeGraph.Proofs.Classification.Exploration
import TypeGraph.Proofs.Conversion.Progress

/-!
# The roles of a run

What the classification of a run holds, told by the index: every identity in it is known, enums are
enums and the others are not. From the roles follows the converter that fills in each declaration. It is
not told by the role alone: types that models lead to are filled in while models are converted, and
then a type with endpoints goes to the converter that is used for a type found on the way
(`Setup.Converts`).
-/

namespace TypeGraph

/-! ## What a classification holds -/

namespace Classification

variable {index : Index} {types : List Descriptor}

/-- Every identity of a classification is that of a known type which is an enum exactly when the
identity is among the enums. -/
structure Sound (index : Index) (c : Classification) : Prop where
  enums : ∀ name ∈ c.enums, ∃ d, index.find? name = some d ∧ d.isEnum = true
  models : ∀ name ∈ c.models, ∃ d, index.find? name = some d ∧ d.isEnum = false
  rests : ∀ name ∈ c.rests, ∃ d, index.find? name = some d ∧ d.isEnum = false

theorem sound_ofTypes {isModel isRest : Descriptor → Bool}
    (hknown : ∀ d ∈ types, index.find? d.name = some d) :
    (ofTypes isModel isRest types).Sound index := by
  refine ⟨?_, ?_, ?_⟩
  · intro name hname
    obtain ⟨d, hd, hcond, rfl⟩ := mem_named_iff.mp hname
    exact ⟨d, hknown d hd, hcond⟩
  · intro name hname
    obtain ⟨d, hd, hcond, rfl⟩ := mem_named_iff.mp hname
    rw [Bool.and_eq_true] at hcond
    exact ⟨d, hknown d hd, by simpa using hcond.1⟩
  · intro name hname
    obtain ⟨d, hd, hcond, rfl⟩ := mem_named_iff.mp hname
    rw [Bool.and_eq_true] at hcond
    exact ⟨d, hknown d hd, by simpa using hcond.1⟩

/-- Exploration keeps a classification sound. -/
theorem sound_explore {s : Surroundings} {c : Classification} (h : c.Sound s.index) :
    (c.explore s).Sound s.index := by
  refine ⟨?_, ?_, ?_⟩
  · intro name hname
    rcases mem_explore_enums.mp hname with hold | ⟨_, hnew⟩
    · exact h.enums name hold
    · exact hnew
  · intro name hname
    rcases mem_explore_models.mp hname with hold | ⟨_, hnew⟩
    · exact h.models name hold
    · exact hnew
  · intro name hname
    rcases Index.mem_closure hname with hold | hadmitted
    · exact h.rests name hold
    · obtain ⟨d, husable, hnoEnum, _⟩ := admitted_base_iff.mp hadmitted
      exact ⟨d, husable.known, hnoEnum⟩

/-- Exploration adds nothing when no type with endpoints mentions a type that could be added. -/
theorem explore_eq_self {s : Surroundings} {c : Classification}
    (hbases : ∀ y ∈ (s.known c.rests).flatMap Descriptor.baseNames,
      ¬ s.index.Admitted (c.admitsBase s) y)
    (hseeds : ∀ y ∈ (s.known c.rests).flatMap seeds, ¬ s.index.Admitted (c.admitsMention s) y) :
    c.explore s = c := by
  have hrests : c.restClosure s = c.rests := Index.closure_eq_seen hbases
  have hmentioned : c.mentioned s = ∅ := Index.closure_eq_seen hseeds
  rw [explore, hrests, hmentioned]
  rfl

end Classification

namespace Setup

variable {s : Setup} {discovery : Discovery} {index : Index} {c : Classification} {d : Descriptor}
  {k k' : Converter}

/-- What a run knows beforehand for its exploration. -/
abbrev surroundings (s : Setup) (discovery : Discovery) : Surroundings :=
  { index := Setup.index discovery, custom := s.custom }

/-- The classification of the candidates of a run by the filters. -/
abbrev filtered (s : Setup) (discovery : Discovery) : Classification :=
  s.classify (discovery.candidates.filterMap fun d => (Setup.index discovery).find? d.name)

/-- The classification of a run is that by the filters when exploration finds nothing to add. -/
theorem classified_eq_classify
    (hbases : ∀ y ∈ ((s.surroundings discovery).known (s.filtered discovery).rests).flatMap
      Descriptor.baseNames,
        ¬ (Setup.index discovery).Admitted
          ((s.filtered discovery).admitsBase (s.surroundings discovery)) y)
    (hseeds : ∀ y ∈ ((s.surroundings discovery).known (s.filtered discovery).rests).flatMap
      Classification.seeds,
        ¬ (Setup.index discovery).Admitted
          ((s.filtered discovery).admitsMention (s.surroundings discovery)) y) :
    s.classified discovery = s.filtered discovery := by
  rw [classified, classification, Classification.explore_eq_self hbases hseeds]

theorem sound_filtered (s : Setup) (discovery : Discovery) :
    (s.filtered discovery).Sound (Setup.index discovery) := by
  refine Classification.sound_ofTypes ?_
  intro d hd
  obtain ⟨x, _, hfind⟩ := List.mem_filterMap.mp hd
  exact (Index.name_of_find? hfind) ▸ hfind

theorem sound_classified (s : Setup) (discovery : Discovery) :
    (s.classified discovery).Sound (Setup.index discovery) :=
  Classification.sound_explore (s := s.surroundings discovery) (sound_filtered s discovery)

/-! ## Which converter fills in a type -/

/-- The converter that a type goes to while models are converted: that of models for a model, and for
any other type the one for types found on the way. -/
def DuringModels (s : Setup) (c : Classification) (d : Descriptor) (k : Converter) : Prop :=
  if d.name ∈ c.models then s.converters.model = some k else s.converters.for? d = .ok k

/-- An identity that has a declaration once the models are converted, since models lead to it. -/
def FromModels (s : Setup) (index : Index) (c : Classification) (name : String) : Prop :=
  (s.env index).Reaches (s.DuringModels c)
    (fun x => x ∈ c.models ∧ s.custom.contains x = false) name

/-- The converter that fills in the declaration of a type. -/
inductive Converts (s : Setup) (index : Index) (c : Classification) (d : Descriptor) :
    Converter → Prop
  | enum (henum : d.isEnum = true) : Converts s index c d .enum
  | model {k : Converter} (henum : d.isEnum = false) (hmodel : d.name ∈ c.models)
      (hconv : s.converters.model = some k) : Converts s index c d k
  | rest {k : Converter} (henum : d.isEnum = false) (hmodel : d.name ∉ c.models)
      (hrest : d.name ∈ c.rests) (hfree : ¬ s.FromModels index c d.name)
      (hconv : s.converters.rest = some k) : Converts s index c d k
  | found {k : Converter} (henum : d.isEnum = false) (hmodel : d.name ∉ c.models)
      (hrest : d.name ∈ c.rests → s.FromModels index c d.name)
      (hconv : s.converters.for? d = .ok k) : Converts s index c d k

theorem for?_enum (h : d.isEnum = true) : s.converters.for? d = .ok .enum := by
  simp [Converters.for?, h]

theorem duringModels_of_mem (hmem : d.name ∈ c.models) (hconv : s.converters.model = some k) :
    s.DuringModels c d k := by
  unfold DuringModels
  rw [if_pos hmem]
  exact hconv

theorem duringModels_of_not_mem (hmem : d.name ∉ c.models) (hconv : s.converters.for? d = .ok k) :
    s.DuringModels c d k := by
  unfold DuringModels
  rw [if_neg hmem]
  exact hconv

theorem DuringModels.unique (h : s.DuringModels c d k) (h' : s.DuringModels c d k') : k = k' := by
  unfold DuringModels at h h'
  split at h
  · rename_i hmem
    rw [if_pos hmem] at h'
    exact Option.some.inj (h.symm.trans h')
  · rename_i hmem
    rw [if_neg hmem] at h'
    exact Except.ok.inj (h.symm.trans h')

theorem DuringModels.eq_enum (hsound : c.Sound index) (h : s.DuringModels c d k)
    (hknown : index.find? d.name = some d) (henum : d.isEnum = true) : k = .enum := by
  unfold DuringModels at h
  split at h
  · rename_i hmem
    obtain ⟨e, hfind, hno⟩ := hsound.models d.name hmem
    obtain rfl : d = e := Option.some.inj (hknown.symm.trans hfind)
    exact absurd (henum.symm.trans hno) (by simp)
  · rw [for?_enum henum] at h
    exact (Except.ok.inj h).symm

/-- The converter that a type goes to while models are converted is the one that fills it in. -/
theorem DuringModels.converts (hsound : c.Sound index) (h : s.DuringModels c d k)
    (hknown : index.find? d.name = some d) (hfrom : s.FromModels index c d.name) :
    s.Converts index c d k := by
  cases henum : d.isEnum with
  | true =>
      rw [h.eq_enum hsound hknown henum]
      exact .enum henum
  | false =>
      unfold DuringModels at h
      split at h
      · rename_i hmem
        exact .model henum hmem h
      · rename_i hmem
        exact .found henum hmem (fun _ => hfrom) h

end Setup

end TypeGraph
