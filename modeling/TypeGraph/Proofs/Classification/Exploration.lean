import Mathlib.Order.Bounds.Basic
import Mathlib.Data.Set.Basic
import TypeGraph.Classification.Exploration

/-!
# Exploration is a least fixpoint

What a closure over references computes is the least set that holds what was seen before and every
admitted name that is asked for or that a type of the set leads to (`Index.closure_isLeast`), so it does
not depend on the order in which names are taken up. Exploration is two such closures, one after the
other: the types with endpoints grow by their supertypes, and the models and enums by what is mentioned
(`Classification.explore_isLeast`). What had a role before keeps just its roles.
-/

namespace TypeGraph

theorem Names.not_mem_of_isEmpty {names : Names} (h : names.isEmpty = true) (x : String) :
    x ∉ names := by
  have hnil : names.toList = [] := by simpa [Names.isEmpty] using h
  rw [Names.mem_def, hnil]
  exact List.not_mem_nil

/-- The types that an index finds for some names are known, each by one of them. -/
theorem known_of_mem {index : Index} {names : Names} {d : Descriptor}
    (h : d ∈ names.toList.filterMap index.find?) : index.find? d.name = some d ∧ d.name ∈ names := by
  obtain ⟨x, hx, hfind⟩ := List.mem_filterMap.mp h
  have hname : d.name = x := Index.name_of_find? hfind
  exact ⟨hname ▸ hfind, hname ▸ hx⟩

/-- The names of the types of one kind that an index finds for some names. -/
theorem known_of_kind_iff {index : Index} {names : Names} {kind : Descriptor → Bool} {x : String} :
    (∃ d ∈ (names.toList.filterMap index.find?).filter kind, d.name = x) ↔
      x ∈ names ∧ ∃ d, index.find? x = some d ∧ kind d = true := by
  constructor
  · rintro ⟨d, hd, rfl⟩
    obtain ⟨hmem, hkind⟩ := List.mem_filter.mp hd
    obtain ⟨hfind, hfound⟩ := known_of_mem hmem
    exact ⟨hfound, d, hfind, hkind⟩
  · rintro ⟨hfound, d, hfind, hkind⟩
    exact ⟨d, List.mem_filter.mpr ⟨List.mem_filterMap.mpr ⟨x, hfound, hfind⟩, hkind⟩,
      Index.name_of_find? hfind⟩

/-! ## Closures -/

namespace Index

variable {index : Index} {admits : Descriptor → Bool} {next : Descriptor → List String}
  {seen : Names} {names : List String} {x y : String} {d : Descriptor}

/-- A name of a known type that is admitted. -/
def Admitted (index : Index) (admits : Descriptor → Bool) (y : String) : Prop :=
  ∃ d, index.find? y = some d ∧ admits d = true

instance : Decidable (index.Admitted admits y) :=
  decidable_of_iff ((index.find? y).any admits = true) (Option.any_eq_true _ _)

/-- A closure adds only names of known types that are admitted. -/
theorem mem_closure (h : x ∈ index.closure admits next names seen) :
    x ∈ seen ∨ index.Admitted admits x := by
  fun_induction index.closure admits next names seen with
  | case1 seen => exact Or.inl h
  | case2 seen x rest hmem ih => exact ih h
  | case3 seen x rest hmem hfind ih => exact ih h
  | case4 seen x rest hmem d hfind hadmits ih =>
      rcases ih h with hseen | hrest
      · rcases Names.mem_insert.mp hseen with rfl | hold
        · exact Or.inr ⟨d, hfind, hadmits⟩
        · exact Or.inl hold
      · exact Or.inr hrest
  | case5 seen x rest hmem d hfind hadmits ih => exact ih h

theorem mem_closure_of_seen (h : x ∈ seen) : x ∈ index.closure admits next names seen := by
  fun_induction index.closure admits next names seen with
  | case1 seen => exact h
  | case2 seen _ rest _ ih => exact ih h
  | case3 seen _ rest _ _ ih => exact ih h
  | case4 seen _ rest _ d _ _ ih => exact ih (Names.mem_insert.mpr (Or.inr h))
  | case5 seen _ rest _ d _ _ ih => exact ih h

/-- Every admitted name that is asked for is taken up. -/
theorem mem_closure_of_mem (hy : y ∈ names) (h : index.Admitted admits y) :
    y ∈ index.closure admits next names seen := by
  obtain ⟨e, hknown, hadmitted⟩ := h
  fun_induction index.closure admits next names seen with
  | case1 seen => exact absurd hy List.not_mem_nil
  | case2 seen x rest hmem ih =>
      rcases List.mem_cons.mp hy with rfl | hrest
      · exact mem_closure_of_seen hmem
      · exact ih hrest
  | case3 seen x rest hmem hfind ih =>
      rcases List.mem_cons.mp hy with rfl | hrest
      · exact absurd (hfind.symm.trans hknown) (by simp)
      · exact ih hrest
  | case4 seen x rest hmem d hfind hadmits ih =>
      rcases List.mem_cons.mp hy with rfl | hrest
      · exact mem_closure_of_seen (Names.mem_insert.mpr (Or.inl rfl))
      · exact ih (List.mem_append_right _ hrest)
  | case5 seen x rest hmem d hfind hadmits ih =>
      rcases List.mem_cons.mp hy with rfl | hrest
      · obtain rfl : d = e := Option.some.inj (hfind.symm.trans hknown)
        exact absurd hadmitted hadmits
      · exact ih hrest

/-- Whatever was taken up has been followed: the admitted names that it leads to are taken up too. -/
theorem mem_closure_of_next (hx : x ∈ index.closure admits next names seen) (hnew : x ∉ seen)
    (hfind : index.find? x = some d) (hy : y ∈ next d) (h : index.Admitted admits y) :
    y ∈ index.closure admits next names seen := by
  fun_induction index.closure admits next names seen with
  | case1 seen => exact absurd hx hnew
  | case2 seen _ rest _ ih => exact ih hx hnew
  | case3 seen _ rest _ _ ih => exact ih hx hnew
  | case4 seen z rest _ e hknown _ ih =>
      by_cases hsame : x = z
      · -- the names that it leads to are asked for from here on
        subst hsame
        obtain rfl : d = e := Option.some.inj (hfind.symm.trans hknown)
        exact mem_closure_of_mem (List.mem_append_left _ hy) h
      · exact ih hx fun hin => (Names.mem_insert.mp hin).elim hsame hnew
  | case5 seen _ rest _ d _ _ ih => exact ih hx hnew

/-- A set holds what was seen, the admitted names that are asked for, and the admitted names that its
types lead to. Where types that were seen before lead is left to what is asked for. -/
structure Closed (index : Index) (admits : Descriptor → Bool) (next : Descriptor → List String)
    (names : List String) (seen : Names) (S : Set String) : Prop where
  before : ∀ x ∈ seen, x ∈ S
  asked : ∀ y ∈ names, index.Admitted admits y → y ∈ S
  led : ∀ x ∈ S, x ∉ seen → ∀ d, index.find? x = some d → ∀ y ∈ next d,
    index.Admitted admits y → y ∈ S

theorem Closed.closure_subset {S : Set String} (h : index.Closed admits next names seen S)
    (hx : x ∈ index.closure admits next names seen) : x ∈ S := by
  fun_induction index.closure admits next names seen with
  | case1 seen => exact h.before x hx
  | case2 seen z rest _ ih | case3 seen z rest _ _ ih | case5 seen z rest _ d _ _ ih =>
      exact ih ⟨h.before, fun y hy => h.asked y (List.mem_cons_of_mem _ hy), h.led⟩ hx
  | case4 seen z rest hnew d hfind hadmits ih =>
      have hz : z ∈ S := h.asked z List.mem_cons_self ⟨d, hfind, hadmits⟩
      refine ih ⟨?_, ?_, ?_⟩ hx
      · intro w hw
        rcases Names.mem_insert.mp hw with rfl | hold
        · exact hz
        · exact h.before w hold
      · intro y hy hadmitted
        rcases List.mem_append.mp hy with hstep | hrest
        · exact h.led z hz hnew d hfind y hstep hadmitted
        · exact h.asked y (List.mem_cons_of_mem _ hrest) hadmitted
      · exact fun w hw hnot => h.led w hw fun hold => hnot (Names.mem_insert.mpr (Or.inr hold))

/-- A closure is the least closed set. -/
theorem closure_isLeast : IsLeast {S : Set String | index.Closed admits next names seen S}
    {x | x ∈ index.closure admits next names seen} := by
  refine ⟨⟨?_, ?_, ?_⟩, ?_⟩
  · exact fun x hx => mem_closure_of_seen hx
  · exact fun y hy hadmitted => mem_closure_of_mem hy hadmitted
  · exact fun x hx hnew d hfind y hy hadmitted => mem_closure_of_next hx hnew hfind hy hadmitted
  · exact fun S hS x hx => hS.closure_subset hx

/-- Nothing is added when nothing that is asked for is admitted. -/
theorem closure_eq_seen (h : ∀ y ∈ names, ¬ index.Admitted admits y) :
    index.closure admits next names seen = seen := by
  refine Names.ext_mem fun x => ⟨fun hx => ?_, mem_closure_of_seen⟩
  have hclosed : index.Closed admits next names seen {x | x ∈ seen} :=
    ⟨fun _ hx => hx, fun y hy hadmitted => absurd hadmitted (h y hy),
      fun _ hx hnew => absurd hx hnew⟩
  exact hclosed.closure_subset hx

end Index

/-! ## What a classification holds -/

namespace Classification

variable {s : Surroundings} {c : Classification} {types : List Descriptor}
  {condition : Descriptor → Bool} {x name : String} {d : Descriptor}

theorem mem_named_iff :
    name ∈ named types condition ↔ ∃ d ∈ types, condition d = true ∧ d.name = name := by
  simp [named, and_assoc]

theorem mem_addAll_iff {set : Names} :
    name ∈ addAll set types ↔ name ∈ set ∨ ∃ d ∈ types, d.name = name := by
  unfold addAll
  induction types generalizing set with
  | nil => simp
  | cons d rest ih =>
      rw [List.foldl_cons, ih, Names.mem_insert]
      constructor
      · rintro ((rfl | hset) | ⟨e, he, hname⟩)
        · exact Or.inr ⟨d, List.mem_cons_self, rfl⟩
        · exact Or.inl hset
        · exact Or.inr ⟨e, List.mem_cons_of_mem _ he, hname⟩
      · rintro (hset | ⟨e, he, hname⟩)
        · exact Or.inl (Or.inr hset)
        · rcases List.mem_cons.mp he with rfl | hmem
          · exact Or.inl (Or.inl hname.symm)
          · exact Or.inr ⟨e, hmem, hname⟩

theorem contains_iff : c.contains x = true ↔ x ∈ c.enums ∨ x ∈ c.models ∨ x ∈ c.rests := by
  simp [contains, or_assoc]

/-- A classification with the supertypes that join the types with endpoints. -/
def withBases (s : Surroundings) (c : Classification) : Classification :=
  { c with rests := c.restClosure s }

/-- What exploration adds to the enums and models: the names mentioned by types with endpoints. -/
abbrev found (s : Surroundings) (c : Classification) : Names := (c.withBases s).mentioned s

/-- A classification with more enums and models, which are known by their names. -/
def grown (s : Surroundings) (c : Classification) (names : Names) : Classification :=
  { c with
    enums := addAll c.enums ((s.known names).filter (·.isEnum))
    models := addAll c.models ((s.known names).filter fun d => !d.isEnum) }

theorem mem_grown_enums {names : Names} : x ∈ (c.grown s names).enums ↔
    x ∈ c.enums ∨ (x ∈ names ∧ ∃ d, s.index.find? x = some d ∧ d.isEnum = true) :=
  mem_addAll_iff.trans (or_congr_right known_of_kind_iff)

theorem mem_grown_models {names : Names} : x ∈ (c.grown s names).models ↔
    x ∈ c.models ∨ (x ∈ names ∧ ∃ d, s.index.find? x = some d ∧ d.isEnum = false) := by
  refine mem_addAll_iff.trans (or_congr_right (known_of_kind_iff.trans (and_congr_right fun _ => ?_)))
  simp only [Bool.not_eq_true']

theorem explore_eq_grown (s : Surroundings) (c : Classification) :
    c.explore s = (c.withBases s).grown s (c.found s) :=
  rfl

theorem mem_explore_enums : x ∈ (c.explore s).enums ↔
    x ∈ c.enums ∨ (x ∈ c.found s ∧ ∃ d, s.index.find? x = some d ∧ d.isEnum = true) :=
  mem_grown_enums

theorem mem_explore_models : x ∈ (c.explore s).models ↔
    x ∈ c.models ∨ (x ∈ c.found s ∧ ∃ d, s.index.find? x = some d ∧ d.isEnum = false) :=
  mem_grown_models

end Classification

/-! ## Names that can be given a role -/

/-- A name can be given a role by exploration: neither a chosen target nor one of the library stands
for it, and its type is known and no annotation. -/
structure Surroundings.Usable (s : Surroundings) (name : String) (d : Descriptor) : Prop where
  known : s.index.find? name = some d
  free : s.custom.contains name = false
  structural : Builtin.of? name = none
  kind : d.kind ≠ .annotationType

theorem Surroundings.usable_iff {s : Surroundings} {name : String} {d : Descriptor}
    (hfind : s.index.find? name = some d) :
    s.Usable name d ↔ s.custom.isMapped name = false ∧ d.kind ≠ .annotationType := by
  have hmapped : s.custom.isMapped name = false ↔
      s.custom.contains name = false ∧ Builtin.of? name = none := by
    simp [CustomTypes.isMapped]
  rw [hmapped, and_assoc]
  exact ⟨fun h => ⟨h.free, h.structural, h.kind⟩, fun ⟨h, h', h''⟩ => ⟨hfind, h, h', h''⟩⟩

namespace Classification

variable {s : Surroundings} {c : Classification} {x y : String} {d : Descriptor}

theorem admitsBase_iff (hfind : s.index.find? y = some d) : c.admitsBase s d = true ↔
    s.Usable y d ∧ d.isEnum = false ∧ y ∉ c.enums ∧ y ∉ c.models := by
  have hname : d.name = y := Index.name_of_find? hfind
  rw [Surroundings.usable_iff hfind]
  simp [admitsBase, Surroundings.isUsable, hname, and_assoc]

theorem admitsMention_iff (hfind : s.index.find? y = some d) : c.admitsMention s d = true ↔
    s.Usable y d ∧ c.contains y = false ∧ (d.isEnum = true ∨ d.hasEndpoints = false) := by
  have hname : d.name = y := Index.name_of_find? hfind
  rw [Surroundings.usable_iff hfind]
  simp [admitsMention, Surroundings.isUsable, hname, and_assoc]

theorem admitted_base_iff : s.index.Admitted (c.admitsBase s) y ↔
    ∃ d, s.Usable y d ∧ d.isEnum = false ∧ y ∉ c.enums ∧ y ∉ c.models := by
  refine exists_congr fun d => ?_
  constructor
  · rintro ⟨hfind, hadmits⟩
    exact (admitsBase_iff hfind).mp hadmits
  · intro h
    exact ⟨h.1.known, (admitsBase_iff h.1.known).mpr h⟩

theorem admitted_mention_iff : s.index.Admitted (c.admitsMention s) y ↔
    ∃ d, s.Usable y d ∧ c.contains y = false ∧ (d.isEnum = true ∨ d.hasEndpoints = false) := by
  refine exists_congr fun d => ?_
  constructor
  · rintro ⟨hfind, hadmits⟩
    exact (admitsMention_iff hfind).mp hadmits
  · intro h
    exact ⟨h.1.known, (admitsMention_iff h.1.known).mpr h⟩

/-! ## The least fixpoints -/

/-- A set holds the types with endpoints together with their supertypes: the first identity that a
supertype of a member mentions is in it, if it can be given a role, is no enum and had no other role. -/
structure HoldsBases (s : Surroundings) (c : Classification) (S : Set String) : Prop where
  given : ∀ x ∈ c.rests, x ∈ S
  base : ∀ x ∈ S, ∀ r, s.index.find? x = some r → ∀ t ∈ r.supertypes, ∀ y,
    t.identities.head? = some y → ∀ d, s.Usable y d → d.isEnum = false → y ∉ c.enums →
      y ∉ c.models → y ∈ S

/-- What some types with endpoints mention: in the signatures of their endpoints, or in a supertype
after its first identity. -/
def IsSeed (s : Surroundings) (rests : Names) (y : String) : Prop :=
  ∃ x ∈ rests, ∃ r, s.index.find? x = some r ∧
    (y ∈ r.endpointReferences ∨ ∃ t ∈ r.supertypes, y ∈ t.identities.tail)

/-- What is mentioned by some types with endpoints, or by a model that was added. -/
def IsMentioned (s : Surroundings) (rests : Names) (models : Set String) (y : String) : Prop :=
  IsSeed s rests y ∨ ∃ x ∈ models, ∃ m, s.index.find? x = some m ∧ y ∈ m.modelReferences

/-- Two sets, of enums and of models, hold whatever is mentioned that can be given a role and has none:
an enum is in the first, and a type that is no enum and has no endpoint is in the second. -/
structure HoldsMentions (s : Surroundings) (c : Classification) (rests : Names)
    (A : Set String × Set String) : Prop where
  enum : ∀ y d, s.Usable y d → y ∉ c.enums → y ∉ c.models → y ∉ rests →
    IsMentioned s rests A.2 y → d.isEnum = true → y ∈ A.1
  model : ∀ y d, s.Usable y d → y ∉ c.enums → y ∉ c.models → y ∉ rests →
    IsMentioned s rests A.2 y → d.isEnum = false → d.hasEndpoints = false → y ∈ A.2

theorem mem_baseNames_iff {r : Descriptor} :
    y ∈ r.baseNames ↔ ∃ t ∈ r.supertypes, t.identities.head? = some y := by
  simp [Descriptor.baseNames]

theorem mem_flatMap_known_iff {names : Names} {next : Descriptor → List String} :
    y ∈ (s.known names).flatMap next ↔
      ∃ x ∈ names, ∃ r, s.index.find? x = some r ∧ y ∈ next r := by
  rw [List.mem_flatMap]
  constructor
  · rintro ⟨r, hr, hy⟩
    obtain ⟨x, hx, hfind⟩ := List.mem_filterMap.mp hr
    exact ⟨x, hx, r, hfind, hy⟩
  · rintro ⟨x, hx, r, hfind, hy⟩
    exact ⟨r, List.mem_filterMap.mpr ⟨x, hx, hfind⟩, hy⟩

theorem mem_seeds_iff {rests : Names} :
    y ∈ (s.known rests).flatMap seeds ↔ IsSeed s rests y := by
  rw [mem_flatMap_known_iff, IsSeed]
  simp only [seeds, Descriptor.baseArguments, List.mem_append, List.mem_flatMap]

theorem mem_mentions_iff : y ∈ mentions d ↔ d.isEnum = false ∧ y ∈ d.modelReferences := by
  unfold mentions
  split
  · simp_all
  · simp_all

/-- The types with endpoints that exploration ends with are the least set that holds their supertypes. -/
theorem restClosure_isLeast (s : Surroundings) (c : Classification) :
    IsLeast {S : Set String | HoldsBases s c S} {x | x ∈ (c.explore s).rests} := by
  have hclosed : s.index.Closed (c.admitsBase s) Descriptor.baseNames
      ((s.known c.rests).flatMap Descriptor.baseNames) c.rests {x | x ∈ c.restClosure s} :=
    Index.closure_isLeast.1
  constructor
  · refine ⟨hclosed.before, ?_⟩
    intro x hx r hfind t ht y hy d husable hnoEnum henums hmodels
    have hadmitted := admitted_base_iff.mpr ⟨d, husable, hnoEnum, henums, hmodels⟩
    have hbase : y ∈ r.baseNames := mem_baseNames_iff.mpr ⟨t, ht, hy⟩
    by_cases hgiven : x ∈ c.rests
    · exact hclosed.asked y (mem_flatMap_known_iff.mpr ⟨x, hgiven, r, hfind, hbase⟩) hadmitted
    · exact hclosed.led x hx hgiven r hfind y hbase hadmitted
  · intro S hS x hx
    refine Index.Closed.closure_subset (S := S) ⟨hS.given, ?_, ?_⟩ hx
    · intro y hy hadmitted
      obtain ⟨z, hz, r, hfind, hbase⟩ := mem_flatMap_known_iff.mp hy
      obtain ⟨t, ht, hhead⟩ := mem_baseNames_iff.mp hbase
      obtain ⟨d, husable, hnoEnum, henums, hmodels⟩ := admitted_base_iff.mp hadmitted
      exact hS.base z (hS.given z hz) r hfind t ht y hhead d husable hnoEnum henums hmodels
    · intro z hz _ r hfind y hbase hadmitted
      obtain ⟨t, ht, hhead⟩ := mem_baseNames_iff.mp hbase
      obtain ⟨d, husable, hnoEnum, henums, hmodels⟩ := admitted_base_iff.mp hadmitted
      exact hS.base z hz r hfind t ht y hhead d husable hnoEnum henums hmodels

/-- The enums and the models that exploration adds. -/
def added (s : Surroundings) (c : Classification) : Set String × Set String :=
  ({x | x ∈ (c.explore s).enums ∧ x ∉ c.enums}, {x | x ∈ (c.explore s).models ∧ x ∉ c.models})

/-- What is found can be given a role, had none, and is an enum or has no endpoint. -/
theorem found_spec (h : x ∈ c.found s) : ∃ d, s.Usable x d ∧
    (x ∉ c.enums ∧ x ∉ c.models ∧ x ∉ (c.explore s).rests) ∧
      (d.isEnum = true ∨ d.hasEndpoints = false) := by
  rcases Index.mem_closure h with hnone | hadmitted
  · exact absurd hnone (Names.not_mem_empty x)
  · obtain ⟨d, husable, hcontains, hkind⟩ := admitted_mention_iff.mp hadmitted
    rw [← Bool.not_eq_true, contains_iff, not_or, not_or] at hcontains
    exact ⟨d, husable, hcontains, hkind⟩

theorem mem_added_enums_iff : x ∈ (c.added s).1 ↔
    x ∈ c.found s ∧ ∃ d, s.index.find? x = some d ∧ d.isEnum = true := by
  show x ∈ (c.explore s).enums ∧ x ∉ c.enums ↔ _
  rw [mem_explore_enums]
  constructor
  · rintro ⟨hold | hnew, hnot⟩
    · exact absurd hold hnot
    · exact hnew
  · rintro hnew
    obtain ⟨_, _, ⟨hnot, _⟩, _⟩ := found_spec hnew.1
    exact ⟨Or.inr hnew, hnot⟩

theorem mem_added_models_iff : x ∈ (c.added s).2 ↔
    x ∈ c.found s ∧ ∃ d, s.index.find? x = some d ∧ d.isEnum = false := by
  show x ∈ (c.explore s).models ∧ x ∉ c.models ↔ _
  rw [mem_explore_models]
  constructor
  · rintro ⟨hold | hnew, hnot⟩
    · exact absurd hold hnot
    · exact hnew
  · rintro hnew
    obtain ⟨_, _, ⟨_, hnot, _⟩, _⟩ := found_spec hnew.1
    exact ⟨Or.inr hnew, hnot⟩

/-- Whatever is mentioned, can be given a role, has none, and is an enum or has no endpoint is found. -/
theorem found_of_isMentioned (husable : s.Usable y d) (henums : y ∉ c.enums) (hmodels : y ∉ c.models)
    (hrests : y ∉ (c.explore s).rests) (hkind : d.isEnum = true ∨ d.hasEndpoints = false)
    (h : IsMentioned s (c.explore s).rests (c.added s).2 y) : y ∈ c.found s := by
  have hcontains : (c.withBases s).contains y = false := by
    rw [← Bool.not_eq_true, contains_iff, not_or, not_or]
    exact ⟨henums, hmodels, hrests⟩
  have hadmitted := admitted_mention_iff.mpr ⟨d, husable, hcontains, hkind⟩
  rcases h with hseed | ⟨x, hx, m, hfind, hy⟩
  · exact Index.mem_closure_of_mem (mem_seeds_iff.mpr hseed) hadmitted
  · obtain ⟨hfound, o, ho, hnoEnum⟩ := mem_added_models_iff.mp hx
    obtain rfl : m = o := Option.some.inj (hfind.symm.trans ho)
    exact Index.mem_closure_of_next hfound (Names.not_mem_empty x) hfind
      (mem_mentions_iff.mpr ⟨hnoEnum, hy⟩) hadmitted

/-- The enums and models that exploration adds are the least pair of sets that holds what is mentioned. -/
theorem added_isLeast (s : Surroundings) (c : Classification) :
    IsLeast {A : Set String × Set String | HoldsMentions s c (c.explore s).rests A} (c.added s) := by
  constructor
  · refine ⟨?_, ?_⟩
    · intro y d husable henums hmodels hrests hmentioned henum
      have hfound := found_of_isMentioned husable henums hmodels hrests (Or.inl henum) hmentioned
      exact mem_added_enums_iff.mpr ⟨hfound, d, husable.known, henum⟩
    · intro y d husable henums hmodels hrests hmentioned hnoEnum hnoEndpoint
      have hfound :=
        found_of_isMentioned husable henums hmodels hrests (Or.inr hnoEndpoint) hmentioned
      exact mem_added_models_iff.mpr ⟨hfound, d, husable.known, hnoEnum⟩
  · intro A hA
    -- what is found lies in the set for its kind, which is said of all of it at once
    have hall : ∀ x ∈ c.found s, ∀ d, s.index.find? x = some d →
        (d.isEnum = true → x ∈ A.1) ∧ (d.isEnum = false → x ∈ A.2) := by
      intro x hx
      refine Index.Closed.closure_subset (S := {x | ∀ d, s.index.find? x = some d →
        (d.isEnum = true → x ∈ A.1) ∧ (d.isEnum = false → x ∈ A.2)}) ?_ hx
      have hstep : ∀ y, s.index.Admitted ((c.withBases s).admitsMention s) y →
          IsMentioned s (c.explore s).rests A.2 y → ∀ d, s.index.find? y = some d →
            (d.isEnum = true → y ∈ A.1) ∧ (d.isEnum = false → y ∈ A.2) := by
        intro y hadmitted hmentioned d hfind
        obtain ⟨e, husable, hcontains, hkind⟩ := admitted_mention_iff.mp hadmitted
        obtain rfl : d = e := Option.some.inj (hfind.symm.trans husable.known)
        rw [← Bool.not_eq_true, contains_iff, not_or, not_or] at hcontains
        obtain ⟨henums, hmodels, hrests⟩ := hcontains
        refine ⟨hA.enum y d husable henums hmodels hrests hmentioned, fun hnoEnum => ?_⟩
        rcases hkind with henum | hnoEndpoint
        · exact absurd (henum.symm.trans hnoEnum) (by simp)
        · exact hA.model y d husable henums hmodels hrests hmentioned hnoEnum hnoEndpoint
      refine ⟨?_, ?_, ?_⟩
      · exact fun z hz => absurd hz (Names.not_mem_empty z)
      · exact fun y hy hadmitted => hstep y hadmitted (Or.inl (mem_seeds_iff.mp hy))
      · intro z hz _ m hfind y hy hadmitted
        obtain ⟨hnoEnum, hreference⟩ := mem_mentions_iff.mp hy
        exact hstep y hadmitted (Or.inr ⟨z, (hz m hfind).2 hnoEnum, m, hfind, hreference⟩)
    refine ⟨?_, ?_⟩
    · intro x hx
      obtain ⟨hfound, d, hfind, henum⟩ := mem_added_enums_iff.mp hx
      exact (hall x hfound d hfind).1 henum
    · intro x hx
      obtain ⟨hfound, d, hfind, hnoEnum⟩ := mem_added_models_iff.mp hx
      exact (hall x hfound d hfind).2 hnoEnum

/-! ## Roles are kept -/

/-- A name that had a role has the same roles after exploration. -/
theorem mem_ofRole_explore_iff (h : c.contains x = true) (role : Role) :
    x ∈ (c.explore s).ofRole role ↔ x ∈ c.ofRole role := by
  have hnotFound : x ∉ c.found s := by
    intro hfound
    obtain ⟨_, _, ⟨henums, hmodels, hrests⟩, _⟩ := found_spec hfound
    rcases contains_iff.mp h with henum | hmodel | hrest
    · exact henums henum
    · exact hmodels hmodel
    · exact hrests (Index.mem_closure_of_seen hrest)
  cases role with
  | enum => exact mem_explore_enums.trans (or_iff_left fun hnew => hnotFound hnew.1)
  | model => exact mem_explore_models.trans (or_iff_left fun hnew => hnotFound hnew.1)
  | rest =>
      refine ⟨fun hmem => ?_, fun hmem => Index.mem_closure_of_seen hmem⟩
      rcases Index.mem_closure hmem with hold | hadmitted
      · exact hold
      · -- a supertype joins only if it had no other role, and it had some
        obtain ⟨_, _, _, henums, hmodels⟩ := admitted_base_iff.mp hadmitted
        exact ((contains_iff.mp h).resolve_left henums).resolve_left hmodels

/-- A name that had no role has at most one after exploration. -/
theorem role_unique_of_explore (h : c.contains x = false) {role role' : Role}
    (hx : x ∈ (c.explore s).ofRole role) (hx' : x ∈ (c.explore s).ofRole role') : role = role' := by
  rw [← Bool.not_eq_true, contains_iff, not_or, not_or] at h
  obtain ⟨henums, hmodels, _⟩ := h
  -- a name in a role tells whether it was found, and what its type is
  have htold : ∀ r, x ∈ (c.explore s).ofRole r →
      (r = .rest ∧ x ∈ (c.explore s).rests) ∨ (x ∉ (c.explore s).rests ∧
        ∃ d, s.index.find? x = some d ∧ r = if d.isEnum = true then .enum else .model) := by
    intro r hr
    cases r with
    | enum =>
        obtain ⟨hfound, d, hfind, henum⟩ := (mem_explore_enums.mp hr).resolve_left henums
        obtain ⟨_, _, ⟨_, _, hrests⟩, _⟩ := found_spec hfound
        exact Or.inr ⟨hrests, d, hfind, by rw [if_pos henum]⟩
    | model =>
        obtain ⟨hfound, d, hfind, hnoEnum⟩ := (mem_explore_models.mp hr).resolve_left hmodels
        obtain ⟨_, _, ⟨_, _, hrests⟩, _⟩ := found_spec hfound
        exact Or.inr ⟨hrests, d, hfind, by rw [if_neg (by simp [hnoEnum])]⟩
    | rest => exact Or.inl ⟨rfl, hr⟩
  rcases htold role hx, htold role' hx' with
    ⟨⟨rfl, hrest⟩ | ⟨hno, d, hfind, rfl⟩, ⟨rfl, hrest'⟩ | ⟨hno', d', hfind', rfl⟩⟩
  · rfl
  · exact absurd hrest hno'
  · exact absurd hrest' hno
  · obtain rfl : d = d' := Option.some.inj (hfind.symm.trans hfind')
    rfl

/-- Exploration computes least fixpoints, whatever the types and their references are. The types with
endpoints it ends with are the least set that holds the given ones and their supertypes; with these
fixed, the enums and models it adds are the least sets that hold what is mentioned. So a name that had a
role keeps just its roles, and any other name gets one at most. -/
theorem explore_isLeast (s : Surroundings) (c : Classification) :
    IsLeast {S : Set String | HoldsBases s c S} {x | x ∈ (c.explore s).rests} ∧
    IsLeast {A : Set String × Set String | HoldsMentions s c (c.explore s).rests A}
      ({x | x ∈ (c.explore s).enums ∧ x ∉ c.enums},
        {x | x ∈ (c.explore s).models ∧ x ∉ c.models}) ∧
    (∀ x, c.contains x = true → (c.explore s).rolesOf x = c.rolesOf x) ∧
    ∀ x, c.contains x = false → ∀ role role', x ∈ (c.explore s).ofRole role →
      x ∈ (c.explore s).ofRole role' → role = role' := by
  refine ⟨restClosure_isLeast s c, added_isLeast s c, ?_, ?_⟩
  · intro x hx
    refine List.filter_congr fun role _ => ?_
    rw [decide_eq_decide]
    exact mem_ofRole_explore_iff hx role
  · exact fun x hx role role' hrole hrole' => role_unique_of_explore hx hrole hrole'

end Classification

end TypeGraph
