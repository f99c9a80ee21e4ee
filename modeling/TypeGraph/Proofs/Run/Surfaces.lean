import Mathlib.Data.List.Forall2
import TypeGraph.Proofs.Run.Complete

/-!
# The declarations of types with endpoints

A type with endpoints is to become the interface of their signatures (`IsSurface`). The declaration that
a run makes for it is that interface whenever the converter of such types fills it in. Two things can
put the converter of models in its place: the type is classified as a model too, or it has no endpoint
of its own and a model leads to it. What comes out then is still the same interface exactly when there
was nothing to lose (`surface_of_run`).
-/

namespace TypeGraph

/-! ## What an interface of endpoints is -/

section Surface

variable (resolve : TypeRef → TypeExpr) (strategy : Nullability) (wrapper : TypeExpr)

/-- A parameter of a signature stands for a parameter of an endpoint. It may be absent when the
endpoint takes it from the query without requiring it, and when the strategy infers so. -/
structure IsParameterOf (p : Parameter) (q : Property) : Prop where
  name : q.name = p.name
  type : q.type = resolve p.type
  nullable : q.nullable = true ↔
    (∃ name, Marker.requestParam name false ∈ p.markers) ∨ strategy.infers p.type p.markers = true

/-- A signature stands for an endpoint: the same parameters in order, and the result wrapped. -/
structure IsSignatureOf (m : Method) (g : Signature) : Prop where
  name : g.name = m.name
  params : List.Forall₂ (IsParameterOf resolve strategy) m.params g.params
  returns : g.returns = .apply wrapper [resolve m.returns]

/-- A body is the interface of the endpoints of a type: it has no properties, extends the supertypes
that can be extended, and has one signature for each endpoint, in order. -/
def IsSurface (d : Descriptor) (body : Body) : Prop :=
  ∃ i : Interface, body = .interface i ∧ i.properties = [] ∧
    i.bases = (d.supertypes.map resolve).filter (·.isExtendable) ∧
    List.Forall₂ (IsSignatureOf resolve strategy wrapper) (d.methods.filter (·.isEndpoint)) i.methods

end Surface

namespace Converter

variable {resolve : TypeRef → TypeExpr} {strategy : Nullability} {wrapper : TypeExpr}
  {d : Descriptor}

theorem isOptionalQuery_iff {markers : List Marker} :
    isOptionalQuery markers = true ↔ ∃ name, Marker.requestParam name false ∈ markers := by
  rw [isOptionalQuery, List.any_eq_true]
  constructor
  · rintro ⟨m, hm, hoptional⟩
    cases m with
    | requestParam name required =>
        obtain rfl : required = false := by simpa using hoptional
        exact ⟨name, hm⟩
    | _ => simp at hoptional
  · rintro ⟨name, hm⟩
    exact ⟨_, hm, rfl⟩

theorem isParameterOf_parameter (p : Parameter) :
    IsParameterOf resolve strategy p (parameter resolve strategy p) where
  name := rfl
  type := rfl
  nullable := by
    rw [← isOptionalQuery_iff, ← Bool.or_eq_true]
    rfl

theorem isSignatureOf_endpoint (base : String) (m : Method) :
    IsSignatureOf resolve strategy wrapper m (endpoint resolve strategy wrapper base m) where
  name := rfl
  params := List.forall₂_map_right_iff.mpr
    (List.forall₂_same.mpr fun p _ => isParameterOf_parameter p)
  returns := rfl

/-- The converter of types with endpoints makes the interface of the endpoints. -/
theorem isSurface_body_rest :
    IsSurface resolve strategy wrapper d ((Converter.rest wrapper).body resolve strategy d) :=
  ⟨_, rfl, rfl, rfl, List.forall₂_map_right_iff.mpr
    (List.forall₂_same.mpr fun m _ => isSignatureOf_endpoint _ m)⟩

/-- Something of a type shows in the body that the converter of models makes, but not in the interface
of its endpoints, or the other way round. -/
def Loses (includeIgnored : Bool) (resolve : TypeRef → TypeExpr) (d : Descriptor) : Prop :=
  d.hasEndpoints = true ∨ keptFields includeIgnored d ≠ [] ∨ (collection? resolve d).isSome = true

theorem hasEndpoints_eq_false_iff : d.hasEndpoints = false ↔ d.methods.filter (·.isEndpoint) = [] := by
  simp [Descriptor.hasEndpoints, List.filter_eq_nil_iff]

/-- The converter of models makes the interface of the endpoints exactly when nothing is lost. -/
theorem isSurface_body_model {includeIgnored : Bool} :
    IsSurface resolve strategy wrapper d ((Converter.model includeIgnored).body resolve strategy d) ↔
      ¬ Loses includeIgnored resolve d := by
  cases hcollection : collection? resolve d with
  | some collection =>
      rw [body_model_of_collection hcollection]
      constructor
      · rintro ⟨i, hi, _⟩
        exact Body.noConfusion hi
      · intro hkeeps
        exact absurd (Or.inr (Or.inr (by rw [hcollection]; rfl))) hkeeps
  | none =>
      rw [body_model_of_no_collection hcollection]
      constructor
      · rintro ⟨i, hi, hproperties, _, hmethods⟩
        obtain rfl := Body.interface.inj hi
        rintro (hendpoints | hfields | halias)
        · have hnone := List.forall₂_nil_right_iff.mp hmethods
          rw [hasEndpoints_eq_false_iff.mpr hnone] at hendpoints
          exact Bool.false_ne_true hendpoints
        · exact hfields (List.map_eq_nil_iff.mp hproperties)
        · rw [hcollection] at halias
          exact Bool.false_ne_true halias
      · intro hkeeps
        have hendpoints : d.methods.filter (·.isEndpoint) = [] := by
          rw [← hasEndpoints_eq_false_iff, ← Bool.not_eq_true]
          exact fun h => hkeeps (Or.inl h)
        have hfields : keptFields includeIgnored d = [] := by
          by_contra h
          exact hkeeps (Or.inr (Or.inl h))
        refine ⟨_, rfl, ?_, rfl, ?_⟩
        · rw [hfields]
          rfl
        · rw [hendpoints]
          exact .nil

end Converter

/-! ## Which converter fills them in -/

/-- What counts as declared in a run: what a declaration can be made for. It is left open for
annotations, which have one only when a discovery takes them for candidates. -/
def Env.Counts (env : Env) (declared : String → Bool) : Prop :=
  ∀ x, declared x = env.isDeclarable x ∨
    ∃ a, env.index.find? x = some a ∧ a.kind = .annotationType

namespace Setup

variable {s : Setup} {discovery : Discovery} {index : Index} {cl : Classification} {t : Conversion}
  {d : Descriptor} {k : Converter} {outcome : Outcome}

/-- A declared type has no chosen target. -/
theorem Settled.not_custom (h : s.Settled index cl t) {x : String}
    (hx : t.table.contains x = true) : s.custom.contains x = false := by
  obtain ⟨e, he, rfl⟩ := Table.contains_iff.mp hx
  obtain ⟨r, hr, hpath⟩ := h.reached e he
  rcases hpath.cases_tail with heq | ⟨_, _, _, _, _, _, _, hdecl⟩
  · exact heq ▸ hr.2
  · have hno : (s.env index).custom.contains e.source = false :=
      Conversion.not_custom_of_isDeclarable hdecl
    exact hno

/-- The body of a declaration is what the converter of its type makes of it. -/
theorem Settled.exists_body (h : s.Settled index cl t) {e : Declaration}
    (he : e ∈ t.table.declarations) :
    ∃ d k declared, index.find? e.source = some d ∧ s.Converts index cl d k ∧
      (s.env index).Counts declared ∧
        e.body = k.body ((s.env index).target declared) s.nullability d := by
  obtain ⟨d, k, hconverts, hfilled⟩ := h.filled e he
  obtain ⟨declared, hdecl, honly, hbody⟩ := hfilled.body
  refine ⟨d, k, declared, hfilled.known, hconverts, ?_, hbody⟩
  intro x
  cases hdeclarable : (s.env index).isDeclarable x with
  | true => exact Or.inl (hdecl x hdeclarable)
  | false =>
      cases hdeclared : declared x with
      | false => exact Or.inl rfl
      | true =>
          -- it has a declaration although none can be made on demand
          right
          rcases honly x hdeclared with hno | hcontains
          · rw [hdeclarable] at hno
            exact absurd hno Bool.false_ne_true
          · obtain ⟨o, ho, rfl⟩ := Table.contains_iff.mp hcontains
            obtain ⟨a, _, _, hknown⟩ := h.filled o ho
            refine ⟨a, hknown.known, ?_⟩
            have hcustom := h.not_custom hcontains
            have hfind : index.find? o.source = some a := hknown.known
            simpa [Env.isDeclarable, env, hfind, hcustom] using hdeclarable

/-- The converter of models fills in a type with endpoints: it is a model too, or models lead to it
and it has no endpoint of its own. -/
def TakenByModels (s : Setup) (index : Index) (cl : Classification) (d : Descriptor) : Prop :=
  d.name ∈ cl.models ∨ (s.FromModels index cl d.name ∧ d.hasEndpoints = false)

/-- A type with endpoints goes to the converter of models or to that of types with endpoints. -/
theorem Converts.rest_cases (hsound : cl.Sound index) (hknown : index.find? d.name = some d)
    (hmem : d.name ∈ cl.rests) (hconv : ∃ r, s.converters.rest = some r)
    (h : s.Converts index cl d k) :
    (s.TakenByModels index cl d ∧ s.converters.model = some k) ∨
      (¬ s.TakenByModels index cl d ∧ s.converters.rest = some k) := by
  obtain ⟨o, ho, hno⟩ := hsound.rests d.name hmem
  obtain rfl : d = o := Option.some.inj (hknown.symm.trans ho)
  cases h with
  | enum henum => exact absurd (henum.symm.trans hno) (by simp)
  | model _ hmodel hk => exact Or.inl ⟨Or.inl hmodel, hk⟩
  | rest _ hmodel _ hfree hk =>
      refine Or.inr ⟨?_, hk⟩
      rintro (habsurd | ⟨hfrom, _⟩)
      · exact hmodel habsurd
      · exact hfree hfrom
  | found _ hmodel hfrom hk =>
      rcases Converters.for?_cases hk with ⟨henum, _⟩ | ⟨_, hendpoints, hrest⟩ | ⟨_, hwhy, hk⟩
      · exact absurd (henum.symm.trans hno) (by simp)
      · refine Or.inr ⟨?_, hrest⟩
        rintro (habsurd | ⟨_, hnone⟩)
        · exact hmodel habsurd
        · exact Bool.false_ne_true (hnone.symm.trans hendpoints)
      · left
        rcases hwhy with hnone | habsent
        · exact ⟨Or.inr ⟨hfrom hmem, hnone⟩, hk⟩
        · obtain ⟨r, hr⟩ := hconv
          rw [habsent] at hr
          exact absurd hr (by simp)

end Setup

/-! ## Whole runs -/

/-- In a run of a setup that is made from a configuration every type with endpoints that has no chosen
target gets a declaration, and that is the interface of its endpoints unless the converter of models
fills it in and something is lost. -/
theorem surface_of_run {c : Configuration} {s : Setup} {discovery : Discovery} {outcome : Outcome}
    {name : String} (hsetup : c.setup = .ok s) (h : s.run discovery = .ok outcome)
    (hmem : name ∈ (s.classified discovery).rests) (hcustom : s.custom.contains name = false) :
    ∃ d e declared o, (Setup.index discovery).find? name = some d ∧
      outcome.graph.table.find? name = some e ∧
      (s.env (Setup.index discovery)).Counts declared ∧ c.rest = some o ∧
      (IsSurface ((s.env (Setup.index discovery)).target declared) c.nullability
          (.ofText o.wrapper o.wrapperModule) d e.body ↔
        ¬ (s.TakenByModels (Setup.index discovery) (s.classified discovery) d ∧
          Converter.Loses (c.model.any (·.includeIgnored))
            ((s.env (Setup.index discovery)).target declared) d)) := by
  obtain ⟨final, hgraph, hsettled, hdeclared⟩ := Setup.settled_of_run h
  have htable : outcome.graph.table = final.table := by rw [hgraph]; rfl
  have hsound := Setup.sound_classified s discovery
  obtain ⟨hnullability, _, _⟩ := Configuration.of_setup hsetup
  obtain ⟨hmodelConv, hrestConv⟩ := Configuration.converters_of_setup hsetup
  have hroot : s.IsRoot (s.classified discovery) name :=
    ⟨by simp [Classification.contains, hmem], hcustom⟩
  obtain ⟨e, he, rfl⟩ := Table.contains_iff.mp (hdeclared name hroot)
  obtain ⟨d, k, declared, hfind, hconverts, hcounts, hbody⟩ := hsettled.exists_body he
  have hname : d.name = e.source := Index.name_of_find? hfind
  -- without a converter the run would have failed before its first pass
  have hconv : ∃ r, s.converters.rest = some r := by
    obtain ⟨_, _, _, _, hpasses, _⟩ := Setup.exists_passes h
    rcases (Setup.converter_of_checked hpasses.checked).2 with hempty | hsome
    · exact absurd hmem (Names.not_mem_of_isEmpty hempty _)
    · exact hsome
  obtain ⟨r, hr⟩ := hconv
  obtain ⟨o, ho, rfl⟩ := hrestConv r hr
  refine ⟨d, e, declared, o, hfind, ?_, hcounts, ho, ?_⟩
  · rw [htable]
    exact Table.find?_of_mem hsettled.sources he
  rw [hbody, ← hnullability]
  rcases hconverts.rest_cases hsound (hname ▸ hfind) (hname ▸ hmem) ⟨_, hr⟩ with
    ⟨htaken, hk⟩ | ⟨hfree, hk⟩
  · obtain ⟨options, hoptions, rfl⟩ := hmodelConv k hk
    have hignored : c.model.any (·.includeIgnored) = options.includeIgnored := by
      rw [hoptions]
      rfl
    rw [Converter.isSurface_body_model, hignored]
    exact ⟨fun hkeeps hboth => hkeeps hboth.2, fun hnot hloses => hnot ⟨htaken, hloses⟩⟩
  · obtain rfl := Option.some.inj (hr.symm.trans hk)
    exact ⟨fun _ hboth => hfree hboth.1, fun _ => Converter.isSurface_body_rest⟩

theorem surface_shop : ∃ outcome d e declared, shopSetup.run shopInput = .ok outcome ∧
    (Setup.index shopInput).find? "shop.Desk" = some d ∧
      outcome.graph.table.find? "shop.Desk" = some e ∧
        IsSurface ((shopSetup.env (Setup.index shopInput)).target declared) shop.nullability
          (.ofText "Promise" none) d e.body := by
  obtain ⟨outcome, hrun⟩ := run_shop
  have hroles : "shop.Desk" ∈ (shopSetup.classified shopInput).rests ∧
      "shop.Desk" ∉ (shopSetup.classified shopInput).models := by
    rw [Setup.classified_eq_classify (by decide +kernel) (by decide +kernel)]
    decide +kernel
  have hendpoints : ((Setup.index shopInput).find? "shop.Desk").map (·.hasEndpoints) = some true := by
    decide +kernel
  obtain ⟨d, e, declared, o, hfind, he, _, ho, hiff⟩ :=
    surface_of_run (c := shop) rfl hrun hroles.1 (by decide)
  obtain rfl := Option.some.inj ho
  refine ⟨outcome, d, e, declared, hrun, hfind, he, hiff.mpr ?_⟩
  -- a desk is no model, and it has an endpoint
  rintro ⟨hmodel | ⟨_, hnone⟩, _⟩
  · rw [Index.name_of_find? hfind] at hmodel
    exact hroles.2 hmodel
  · simp [hfind, hnone] at hendpoints

/-- The signatures in a body. -/
def Body.methods : Body → List Signature
  | .interface i => i.methods
  | .enum _ | .alias _ _ => []

theorem IsSurface.length_methods {resolve : TypeRef → TypeExpr} {strategy : Nullability}
    {wrapper : TypeExpr} {d : Descriptor} {body : Body}
    (h : IsSurface resolve strategy wrapper d body) :
    body.methods.length = (d.methods.filter (·.isEndpoint)).length := by
  obtain ⟨i, rfl, _, _, hmethods⟩ := h
  exact hmethods.length_eq.symm

/-- A desk that the filter of models accepts as well loses its endpoint. -/
theorem not_surface_shop : ¬ ∀ (c : Configuration) (s : Setup) (discovery : Discovery)
    (outcome : Outcome) (name : String), c.setup = .ok s → s.run discovery = .ok outcome →
      name ∈ (s.classified discovery).rests → s.custom.contains name = false →
        ∃ d e declared o, (Setup.index discovery).find? name = some d ∧
          outcome.graph.table.find? name = some e ∧
          (s.env (Setup.index discovery)).Counts declared ∧ c.rest = some o ∧
          IsSurface ((s.env (Setup.index discovery)).target declared) c.nullability
            (.ofText o.wrapper o.wrapperModule) d e.body := by
  intro hall
  set everything : Setup := { shopSetup with modelFilter := .acceptAll }
  have hclassified : everything.classified shopInput = everything.classify
      (shopInput.candidates.filterMap fun d => (Setup.index shopInput).find? d.name) :=
    Setup.classified_eq_classify (by decide +kernel) (by decide +kernel)
  obtain ⟨outcome, hrun, hlost⟩ : ∃ outcome, everything.run shopInput = .ok outcome ∧
      (outcome.graph.table.find? "shop.Desk").map (·.body.methods.length) = some 0 := by
    refine exists_outcome_of_view ?_
    rw [Setup.run_eq, hclassified]
    decide +kernel
  obtain ⟨d, e, declared, o, hfind, he, _, _, hsurface⟩ :=
    hall { shop with modelFilter := .acceptAll } everything _ outcome "shop.Desk" rfl hrun
      (by rw [hclassified]; decide +kernel) (by decide)
  have hnone : e.body.methods.length = 0 := by
    simpa [he] using hlost
  have hendpoint : (d.methods.filter (·.isEndpoint)).length = 1 := by
    have hone : ((Setup.index shopInput).find? "shop.Desk").map
        (fun d => (d.methods.filter (·.isEndpoint)).length) = some 1 := by
      decide +kernel
    simpa [hfind] using hone
  have hlength := hsurface.length_methods
  omega

end TypeGraph
