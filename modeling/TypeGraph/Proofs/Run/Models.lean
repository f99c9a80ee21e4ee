import TypeGraph.Proofs.Run.Resolution
import TypeGraph.Proofs.Run.Surfaces

/-!
# The declarations of enums and models

Whatever was declared before and is declared in between, a run makes the same of an enum or a model. The
declarations of enums, and only these, list constants, and they list those of their types. A model with
no chosen target becomes an alias when it only stands for a collection, and otherwise the interface of
its kept fields (`IsModel`). Both are told for the output of every run (`faithful_of_run`).
-/

namespace TypeGraph

/-! ## What models become -/

section Model

variable (resolve : TypeRef → TypeExpr) (strategy : Nullability)

/-- A member may be absent: it is wrapped or marked so, or it is a number or boolean behind a reference
and the strategy looks at these. -/
def MayBeAbsent (type : TypeRef) (markers : List Marker) : Prop :=
  (∃ element more, type = .named Known.optional (element :: more)) ∨ .nullable ∈ markers ∨
    (strategy = .standard ∧ ∃ name args, type = .named name args ∧
      (name ∈ Known.boxedNumbers ∨ name = Known.boolean))

/-- A property stands for a field. -/
structure IsPropertyOf (f : Field) (p : Property) : Prop where
  name : p.name = f.name
  type : p.type = resolve f.type
  nullable : p.nullable = true ↔ MayBeAbsent strategy f.type f.markers

/-- A model stands for a collection: it has no fields, and its only supertype is resolved to an array
or a dictionary. -/
structure IsCollection (d : Descriptor) (collection : TypeExpr) : Prop where
  fields : d.fields = []
  supertype : ∃ r, d.supertypes = [r] ∧ resolve r = collection
  shape : (∃ element, collection = .array element) ∨ ∃ value, collection = .dictionary value

/-- A body is what a model becomes: an alias for the collection that the model stands for; if there is
none an interface without methods, which extends the supertypes that can be extended and has a property
for every field that is not left out, in order. -/
structure IsModel (includeIgnored : Bool) (d : Descriptor) (body : Body) : Prop where
  alias_iff : ∀ params target, body = .alias params target ↔
    params = d.typeParams ∧ IsCollection resolve d target
  interface : (∀ target, ¬ IsCollection resolve d target) → ∃ i : Interface, body = .interface i ∧
    i.typeParams = d.typeParams ∧ i.methods = [] ∧
    i.bases = (d.supertypes.map resolve).filter (·.isExtendable) ∧
    List.Forall₂ (IsPropertyOf resolve strategy)
      (d.fields.filter fun f => includeIgnored = true ∨ .jsonIgnore ∉ f.markers) i.properties

end Model

theorem Marker.has_iff {kind : MarkerKind} {m : Marker} {markers : List Marker}
    (h : ∀ o : Marker, o.kind = kind ↔ o = m) : Marker.has kind markers = true ↔ m ∈ markers := by
  rw [Marker.has, List.any_eq_true]
  constructor
  · rintro ⟨o, ho, hkind⟩
    exact (h o).mp (beq_iff_eq.mp hkind) ▸ ho
  · intro hm
    exact ⟨m, hm, beq_iff_eq.mpr ((h m).mpr rfl)⟩

theorem Marker.kind_eq_nullable_iff (m : Marker) : m.kind = .nullable ↔ m = .nullable := by
  cases m <;> simp [Marker.kind]

theorem Marker.kind_eq_jsonIgnore_iff (m : Marker) : m.kind = .jsonIgnore ↔ m = .jsonIgnore := by
  cases m <;> simp [Marker.kind]

namespace TypeRef

theorem isOptionalWrapper_iff {t : TypeRef} : t.isOptionalWrapper = true ↔
    ∃ element more, t = .named Known.optional (element :: more) := by
  cases t with
  | named name args => cases args <;> simp [isOptionalWrapper]
  | primitive p => simp [isOptionalWrapper]
  | array element => simp [isOptionalWrapper]
  | typeVar name => simp [isOptionalWrapper]

theorem isBoxed_iff {t : TypeRef} : Nullability.isBoxed t = true ↔
    ∃ name args, t = .named name args ∧ (name ∈ Known.boxedNumbers ∨ name = Known.boolean) := by
  cases t with
  | named name args => simp [Nullability.isBoxed, Known.isBoxedNumber]
  | primitive p => simp [Nullability.isBoxed]
  | array element => simp [Nullability.isBoxed]
  | typeVar name => simp [Nullability.isBoxed]

end TypeRef

theorem Nullability.infers_iff {strategy : Nullability} {type : TypeRef} {markers : List Marker} :
    strategy.infers type markers = true ↔ MayBeAbsent strategy type markers := by
  unfold infers MayBeAbsent
  rw [Bool.or_eq_true, Bool.or_eq_true, TypeRef.isOptionalWrapper_iff,
    Marker.has_iff Marker.kind_eq_nullable_iff, or_assoc]
  refine or_congr_right (or_congr_right ?_)
  cases strategy with
  | standard => simp [TypeRef.isBoxed_iff]
  | markerOnly => simp

namespace Converter

variable {resolve : TypeRef → TypeExpr} {strategy : Nullability} {includeIgnored : Bool}
  {d : Descriptor} {t : TypeExpr}

theorem isPropertyOf_property (f : Field) :
    IsPropertyOf resolve strategy f (property resolve strategy f) where
  name := rfl
  type := rfl
  nullable := by
    rw [property, Nullability.raise, Bool.false_or, Nullability.infers_iff]

theorem keptFields_eq : keptFields includeIgnored d =
    d.fields.filter fun f => includeIgnored = true ∨ .jsonIgnore ∉ f.markers := by
  refine List.filter_congr fun f _ => ?_
  rw [Bool.eq_iff_iff, decide_eq_true_iff, Bool.or_eq_true, Bool.not_eq_true', ← Bool.not_eq_true,
    Marker.has_iff Marker.kind_eq_jsonIgnore_iff]

theorem collection?_eq_some_iff : collection? resolve d = some t ↔ IsCollection resolve d t := by
  constructor
  · intro h
    unfold collection? at h
    split at h
    · rename_i element hfields hsupers
      obtain rfl := Option.some.inj h
      exact ⟨hfields, List.map_eq_singleton_iff.mp hsupers, Or.inl ⟨element, rfl⟩⟩
    · rename_i value hfields hsupers
      obtain rfl := Option.some.inj h
      exact ⟨hfields, List.map_eq_singleton_iff.mp hsupers, Or.inr ⟨value, rfl⟩⟩
    · simp at h
  · rintro ⟨hfields, ⟨r, hsupers, rfl⟩, ⟨element, hshape⟩ | ⟨value, hshape⟩⟩
    · simp [collection?, hfields, hsupers, hshape]
    · simp [collection?, hfields, hsupers, hshape]

/-- The converter of models makes of a model what it becomes. -/
theorem isModel_body : IsModel resolve strategy includeIgnored d
    ((Converter.model includeIgnored).body resolve strategy d) := by
  cases hcollection : collection? resolve d with
  | some collection =>
      have hstands := collection?_eq_some_iff.mp hcollection
      rw [body_model_of_collection hcollection]
      refine ⟨fun params target => ?_, fun hnone => absurd hstands (hnone collection)⟩
      rw [← collection?_eq_some_iff, hcollection, Body.alias.injEq, Option.some.injEq, eq_comm]
  | none =>
      rw [body_model_of_no_collection hcollection]
      refine ⟨fun params target => ?_, fun _ => ⟨_, rfl, rfl, rfl, rfl, ?_⟩⟩
      · rw [← collection?_eq_some_iff, hcollection]
        simp
      · rw [← keptFields_eq]
        refine List.forall₂_map_right_iff.mpr (List.forall₂_same.mpr ?_)
        exact fun f _ => isPropertyOf_property f

/-- Only the converter of enums makes an enum, and it lists the constants of the type. -/
theorem body_eq_enum_iff {c : Converter} {members : List String} :
    c.body resolve strategy d = .enum members ↔ c = .enum ∧ members = d.constants := by
  cases c with
  | enum => simp [body, eq_comm]
  | model includeIgnored =>
      simp only [body]
      split <;> simp
  | rest wrapper => simp [body]

end Converter

theorem Descriptor.isEnum_iff {d : Descriptor} : d.isEnum = true ↔
    d.kind = .enum ∨ ∃ args, d.superclass = some (.named Known.enum args) := by
  rw [isEnum, Bool.or_eq_true, beq_iff_eq, beq_iff_eq]
  refine or_congr_right ?_
  cases d.superclass with
  | none => simp
  | some t => cases t <;> simp [TypeRef.rawName?]

/-! ## Runs -/

namespace Setup

variable {c : Configuration} {s : Setup} {discovery : Discovery} {index : Index}
  {cl : Classification} {d : Descriptor} {k : Converter}

/-- With the converters of a configuration, a type is filled in by the converter of enums if it is one,
and otherwise by one of those that the configuration makes. -/
theorem Converts.cases_of_setup (hsetup : c.setup = .ok s) (h : s.Converts index cl d k) :
    (d.isEnum = true ↔ k = .enum) ∧
      (d.name ∈ cl.models → d.isEnum = false → ∃ o, c.model = some o ∧ k = .model o.includeIgnored) := by
  obtain ⟨hmodel, hrest⟩ := Configuration.converters_of_setup hsetup
  have hnoEnum : d.isEnum = false → (s.converters.model = some k ∨ s.converters.rest = some k) →
      (d.isEnum = true ↔ k = .enum) := by
    rintro hno (hk | hk)
    · obtain ⟨o, _, rfl⟩ := hmodel k hk
      simp [hno]
    · obtain ⟨o, _, rfl⟩ := hrest k hk
      simp [hno]
  cases h with
  | enum henum => exact ⟨by simp [henum], fun _ hno => absurd (henum.symm.trans hno) (by simp)⟩
  | model hno hmem hk => exact ⟨hnoEnum hno (Or.inl hk), fun _ _ => hmodel k hk⟩
  | rest hno hmem _ _ hk => exact ⟨hnoEnum hno (Or.inr hk), fun hin => absurd hin hmem⟩
  | found hno hmem _ hk =>
      refine ⟨?_, fun hin => absurd hin hmem⟩
      rcases Converters.for?_cases hk with ⟨henum, _⟩ | ⟨_, _, hk⟩ | ⟨_, _, hk⟩
      · exact absurd (henum.symm.trans hno) (by simp)
      · exact hnoEnum hno (Or.inr hk)
      · exact hnoEnum hno (Or.inl hk)

/-- What references are resolved to in a run: targets by what counts as declared, which are told by the
index and the chosen targets if the discovery holds no annotation. -/
structure ResolvesBy (s : Setup) (discovery : Discovery) (resolve : TypeRef → TypeExpr) : Prop where
  target : ∃ declared, (s.env (Setup.index discovery)).Counts declared ∧
    resolve = (s.env (Setup.index discovery)).target declared
  expr : discovery.WithoutAnnotations → ∀ r, resolve r = r.expr (Setup.index discovery) s.custom

theorem resolvesBy_target {declared : String → Bool}
    (h : (s.env (Setup.index discovery)).Counts declared) :
    s.ResolvesBy discovery ((s.env (Setup.index discovery)).target declared) where
  target := ⟨declared, h, rfl⟩
  expr := by
    intro hplain r
    have hoffered : (s.env (Setup.index discovery)).CountsOffered declared := by
      intro x hcustom
      -- only what an annotation counts as is left open, and there is none
      rcases h x with hdeclarable | ⟨a, hfind, hkind⟩
      · rw [hdeclarable, Env.isDeclarable_of_free hcustom]
      · exact absurd hkind (hplain.kind_ne hfind)
    exact Env.target_eq_expr hoffered r

end Setup

/-- The declarations of enums and models are faithful to their types. -/
structure Outcome.Faithful (outcome : Outcome) (c : Configuration) (s : Setup)
    (discovery : Discovery) : Prop where
  /-- A declaration lists constants exactly if it is that of an enum, by kind or by superclass, and then
  it lists those of its type. -/
  enums : ∀ e ∈ outcome.graph.table.declarations, ∃ d,
    (Setup.index discovery).find? e.source = some d ∧
      ((∃ members, e.body = .enum members) ↔
        d.kind = .enum ∨ ∃ args, d.superclass = some (.named Known.enum args)) ∧
      ∀ members, e.body = .enum members → members = d.constants
  /-- Every model without a chosen target has a declaration that says what it becomes. -/
  models : ∀ name ∈ (s.classified discovery).models, s.custom.contains name = false →
    ∃ d e o resolve, (Setup.index discovery).find? name = some d ∧
      outcome.graph.table.find? name = some e ∧ c.model = some o ∧
      s.ResolvesBy discovery resolve ∧ IsModel resolve c.nullability o.includeIgnored d e.body

/-- Every run of a setup that is made from a configuration is faithful to its enums and models. -/
theorem faithful_of_run {c : Configuration} {s : Setup} {discovery : Discovery} {outcome : Outcome}
    (hsetup : c.setup = .ok s) (h : s.run discovery = .ok outcome) :
    outcome.Faithful c s discovery := by
  obtain ⟨final, hgraph, hsettled, hdeclared⟩ := Setup.settled_of_run h
  obtain ⟨hnullability, _, _⟩ := Configuration.of_setup hsetup
  have htable : outcome.graph.table = final.table := by rw [hgraph]; rfl
  refine ⟨?_, ?_⟩
  · rw [htable]
    intro e he
    -- a settled body tells which converter has made it, and from which type
    obtain ⟨d, k, declared, hfind, hconverts, _, hbody⟩ := hsettled.exists_body he
    obtain ⟨henum, _⟩ := hconverts.cases_of_setup hsetup
    refine ⟨d, hfind, ?_, ?_⟩
    · rw [← Descriptor.isEnum_iff, henum, hbody]
      simp only [Converter.body_eq_enum_iff, exists_and_left, exists_eq, and_true]
    · intro members hmembers
      rw [hbody] at hmembers
      exact (Converter.body_eq_enum_iff.mp hmembers).2
  · rw [htable]
    intro name hmem hcustom
    have hroot : s.IsRoot (s.classified discovery) name :=
      ⟨Classification.contains_iff.mpr (Or.inr (Or.inl hmem)), hcustom⟩
    obtain ⟨e, he⟩ := Table.exists_find? (hdeclared name hroot)
    obtain ⟨hmemTable, rfl⟩ := Table.mem_of_find? he
    obtain ⟨d, k, declared, hfind, hconverts, hcounts, hbody⟩ := hsettled.exists_body hmemTable
    -- no model is an enum, so the converter of enums has not made it
    obtain ⟨d', hfind', hno⟩ := (Setup.sound_classified s discovery).models e.source hmem
    obtain rfl : d = d' := Option.some.inj (hfind.symm.trans hfind')
    have hname : d.name = e.source := Index.name_of_find? hfind
    obtain ⟨o, ho, rfl⟩ := (hconverts.cases_of_setup hsetup).2 (hname ▸ hmem) hno
    refine ⟨d, e, o, _, hfind, he, ho, Setup.resolvesBy_target hcounts, ?_⟩
    rw [hbody, ← hnullability]
    exact Converter.isModel_body

theorem faithful_shop : shop.setup = .ok shopSetup ∧
    "shop.Order" ∈ (shopSetup.classified shopInput).models ∧
      ∃ outcome, shopSetup.run shopInput = .ok outcome ∧
        outcome.Faithful shop shopSetup shopInput := by
  obtain ⟨outcome, hrun⟩ := run_shop
  have horder : "shop.Order" ∈ (shopSetup.classified shopInput).models := by
    rw [Setup.classified_eq_classify (by decide +kernel) (by decide +kernel)]
    decide +kernel
  exact ⟨rfl, horder, outcome, hrun, faithful_of_run rfl hrun⟩

end TypeGraph
