import TypeGraph.Proofs.Conversion.Progress
import TypeGraph.Proofs.Target.Parts

/-!
# What bodies refer to

Every type in the body that a converter makes is the target of a reference that the converter resolves,
or that target inside the wrapper of results. A target refers only to identities that its reference
needs, as long as the targets chosen beforehand refer to no declarations, which is so for those of a
configuration. With what a pass says about needs, a body never refers to a missing declaration
(`Filled.contains_of_part`).
-/

namespace TypeGraph

/-- The references in the supertypes, the fields, and the signatures of the endpoints of a type. -/
def Descriptor.allReferences (d : Descriptor) : List TypeRef :=
  d.supertypes ++ d.fields.map (·.type) ++ d.endpoints.flatMap Method.signature

variable {env : Env} {declared : String → Bool} {source : String}

/-! ## Converters -/

namespace Converter

variable {c : Converter} {resolve : TypeRef → TypeExpr} {strategy : Nullability} {d : Descriptor}
  {t : TypeExpr}

/-- The wrapper of results, for a converter of types with endpoints. -/
def wrapper? : Converter → Option TypeExpr
  | .rest wrapper => some wrapper
  | .enum | .model _ => none

theorem references_subset (c : Converter) (d : Descriptor) : c.references d ⊆ d.allReferences := by
  intro r hr
  unfold Descriptor.allReferences
  cases c with
  | enum => exact absurd hr List.not_mem_nil
  | model includeIgnored =>
      refine List.mem_append_left _ ?_
      rcases List.mem_append.mp hr with hsuper | hfield
      · exact List.mem_append_left _ hsuper
      · obtain ⟨f, hf, rfl⟩ := List.mem_map.mp hfield
        exact List.mem_append_right _ (List.mem_map_of_mem (List.mem_filter.mp hf).1)
  | rest wrapper =>
      rcases List.mem_append.mp hr with hsuper | hsignature
      · exact List.mem_append_left _ (List.mem_append_left _ hsuper)
      · exact List.mem_append_right _ hsignature

/-- A model that stands for a collection becomes an alias of it. -/
theorem body_model_of_collection {includeIgnored : Bool} {collection : TypeExpr}
    (h : collection? resolve d = some collection) :
    (Converter.model includeIgnored).body resolve strategy d = .alias d.typeParams collection := by
  simp only [body, h]

/-- Any other model becomes an interface of its fields. -/
theorem body_model_of_no_collection {includeIgnored : Bool} (h : collection? resolve d = none) :
    (Converter.model includeIgnored).body resolve strategy d =
      .interface {
        typeParams := d.typeParams
        bases := bases resolve d
        properties := (keptFields includeIgnored d).map (property resolve strategy) } := by
  simp only [body, h]

/-- A body depends on the targets of the references that its converter resolves. -/
theorem body_congr {resolve' : TypeRef → TypeExpr} (h : ∀ r ∈ c.references d, resolve r = resolve' r) :
    c.body resolve strategy d = c.body resolve' strategy d := by
  cases c with
  | enum => rfl
  | model includeIgnored =>
      have hsupers : d.supertypes.map resolve = d.supertypes.map resolve' :=
        List.map_congr_left fun r hr => h r (List.mem_append_left _ hr)
      have hproperties : (keptFields includeIgnored d).map (property resolve strategy) =
          (keptFields includeIgnored d).map (property resolve' strategy) := by
        refine List.map_congr_left fun f hf => ?_
        rw [property, property, h f.type (List.mem_append_right _ (List.mem_map_of_mem hf))]
      simp only [body, collection?, bases, hsupers, hproperties]
  | rest wrapper =>
      have hsupers : d.supertypes.map resolve = d.supertypes.map resolve' :=
        List.map_congr_left fun r hr => h r (List.mem_append_left _ hr)
      have hmethods : ∀ base, d.endpoints.map (endpoint resolve strategy wrapper base) =
          d.endpoints.map (endpoint resolve' strategy wrapper base) := by
        intro base
        refine List.map_congr_left fun m hm => ?_
        have hresolved : ∀ r ∈ m.signature, resolve r = resolve' r := fun r hr =>
          h r (List.mem_append_right _ (List.mem_flatMap.mpr ⟨m, hm, hr⟩))
        have hparams : m.params.map (parameter resolve strategy) =
            m.params.map (parameter resolve' strategy) := by
          refine List.map_congr_left fun p hp => ?_
          rw [parameter, parameter,
            hresolved p.type (List.mem_append_left _ (List.mem_map_of_mem hp))]
        have hreturns := hresolved m.returns (List.mem_append_right _ (by simp))
        rw [endpoint, endpoint, hparams, hreturns]
      simp only [body, bases, hsupers, hmethods]

theorem mem_bases (h : t ∈ bases resolve d) : ∃ r ∈ d.supertypes, t = resolve r := by
  obtain ⟨r, hr, rfl⟩ := List.mem_map.mp (List.mem_filter.mp h).1
  exact ⟨r, hr, rfl⟩

theorem collection?_eq_some (h : collection? resolve d = some t) :
    ∃ r ∈ d.supertypes, t = resolve r := by
  unfold collection? at h
  split at h
  · rename_i element _ hsupers
    obtain rfl := Option.some.inj h
    obtain ⟨r, hr, heq⟩ := List.mem_map.mp (hsupers ▸ List.mem_singleton.mpr rfl)
    exact ⟨r, hr, heq.symm⟩
  · rename_i value _ hsupers
    obtain rfl := Option.some.inj h
    obtain ⟨r, hr, heq⟩ := List.mem_map.mp (hsupers ▸ List.mem_singleton.mpr rfl)
    exact ⟨r, hr, heq.symm⟩
  · simp at h

/-- Every type in a body comes from a reference that the converter resolves. -/
theorem mem_types_body (h : t ∈ (c.body resolve strategy d).types) :
    ∃ r ∈ c.references d, t = resolve r ∨ ∃ w, c.wrapper? = some w ∧ t = .apply w [resolve r] := by
  cases c with
  | enum => simp [body, Body.types] at h
  | model includeIgnored =>
      simp only [body] at h
      split at h
      · rename_i collection hcollection
        obtain rfl : t = collection := by simpa [Body.types] using h
        obtain ⟨r, hr, heq⟩ := collection?_eq_some hcollection
        exact ⟨r, List.mem_append_left _ hr, Or.inl heq⟩
      · simp only [Body.types, List.flatMap_nil, List.append_nil] at h
        rcases List.mem_append.mp h with hbase | hproperty
        · obtain ⟨r, hr, heq⟩ := mem_bases hbase
          exact ⟨r, List.mem_append_left _ hr, Or.inl heq⟩
        · rw [List.map_map] at hproperty
          obtain ⟨f, hf, rfl⟩ := List.mem_map.mp hproperty
          exact ⟨f.type, List.mem_append_right _ (List.mem_map_of_mem hf), Or.inl rfl⟩
  | rest wrapper =>
      simp only [body, Body.types, List.map_nil, List.append_nil] at h
      rcases List.mem_append.mp h with hbase | hmethod
      · obtain ⟨r, hr, heq⟩ := mem_bases hbase
        exact ⟨r, List.mem_append_left _ hr, Or.inl heq⟩
      · obtain ⟨signature, hsignature, hmem⟩ := List.mem_flatMap.mp hmethod
        obtain ⟨m, hm, rfl⟩ := List.mem_map.mp hsignature
        have hresolved : ∀ r ∈ m.signature, r ∈ (Converter.rest wrapper).references d := by
          intro r hr
          exact List.mem_append_right _ (List.mem_flatMap.mpr ⟨m, hm, hr⟩)
        rcases List.mem_append.mp hmem with hparam | hresult
        · simp only [endpoint, List.map_map] at hparam
          obtain ⟨p, hp, rfl⟩ := List.mem_map.mp hparam
          exact ⟨p.type, hresolved _ (List.mem_append_left _ (List.mem_map_of_mem hp)), Or.inl rfl⟩
        · have hreturns := hresolved m.returns (List.mem_append_right _ (by simp))
          refine ⟨m.returns, hreturns, Or.inr ⟨wrapper, rfl, ?_⟩⟩
          simpa [endpoint] using hresult

end Converter

/-- The converter of a type found on the way: that of enums for an enum, that of types with endpoints
for a type that has some if there is one, and otherwise that of models. -/
theorem Converters.for?_cases {converters : Converters} {d : Descriptor} {c : Converter}
    (h : converters.for? d = .ok c) :
    (d.isEnum = true ∧ c = .enum) ∨
    (d.isEnum = false ∧ d.hasEndpoints = true ∧ converters.rest = some c) ∨
    (d.isEnum = false ∧ (d.hasEndpoints = false ∨ converters.rest = none) ∧
      converters.model = some c) := by
  unfold Converters.for? at h
  cases henum : d.isEnum with
  | true =>
      rw [henum, if_pos rfl] at h
      exact Or.inl ⟨rfl, (Except.ok.inj h).symm⟩
  | false =>
      right
      rw [henum, if_neg Bool.false_ne_true] at h
      split at h
      · -- the converter of types with endpoints is chosen only for a type that has some
        rename_i hchosen
        obtain rfl := Except.ok.inj h
        cases hends : d.hasEndpoints with
        | true =>
            rw [hends, if_pos rfl] at hchosen
            exact Or.inl ⟨rfl, rfl, hchosen⟩
        | false => simp [hends] at hchosen
      · rename_i hchosen hmodel
        obtain rfl := Except.ok.inj h
        refine Or.inr ⟨rfl, ?_, hmodel⟩
        cases hends : d.hasEndpoints with
        | true => exact Or.inr (by simpa [hends] using hchosen)
        | false => exact Or.inl rfl
      · simp at h

/-! ## Targets -/

/-- A chosen target refers to the declaration of a source. -/
def CustomTypes.Mentions (custom : CustomTypes) (source : String) : Prop :=
  ∃ name t, custom.get? name = some t ∧ source ∈ t.sources

/-- No chosen target refers to a declaration. -/
def CustomTypes.Plain (custom : CustomTypes) : Prop :=
  ∀ name t, custom.get? name = some t → t.sources = []

theorem CustomTypes.Plain.not_mentions {custom : CustomTypes} (h : custom.Plain) (source : String) :
    ¬ custom.Mentions source := by
  rintro ⟨name, t, hget, hmem⟩
  rw [h name t hget] at hmem
  exact absurd hmem List.not_mem_nil

namespace Env

theorem sources_fillUp {count : Nat} {args : List TypeExpr} :
    (fillUp count args).flatMap TypeExpr.sources = args.flatMap TypeExpr.sources := by
  simp [fillUp, TypeExpr.any, TypeExpr.sources]

theorem sources_builtin {argument : TypeExpr} {b : Builtin}
    (h : source ∈ (b.target argument).sources) : source ∈ argument.sources := by
  cases b with
  | keyword k => simp [Builtin.target, TypeExpr.sources] at h
  | global name => simp [Builtin.target, TypeExpr.sources] at h
  | optional => exact h
  | collection => simpa only [Builtin.target, TypeExpr.sources] using h
  | map => simpa only [Builtin.target, TypeExpr.sources] using h

mutual

/-- A target refers only to what a chosen target refers to and to what its reference needs, and to that
only if it counts as declared. -/
theorem needs_of_mem_sources :
    ∀ t : TypeRef, source ∈ (env.target declared t).sources →
      env.custom.Mentions source ∨ (source ∈ env.needs t ∧ declared source = true)
  | .primitive _, h | .typeVar _, h => by simp [target, TypeExpr.sources] at h
  | .array element, h => by
      simp only [target, TypeExpr.sources] at h
      simpa only [needs] using needs_of_mem_sources element h
  | .named name args, h => by
      simp only [target, needs] at h ⊢
      cases hcustom : env.custom.get? name with
      | some chosen =>
          rw [hcustom] at h
          exact Or.inl ⟨name, chosen, hcustom, h⟩
      | none =>
          rw [hcustom] at h
          cases hbuiltin : Builtin.of? name with
          | some builtin =>
              rw [hbuiltin] at h
              exact needs_of_mem_sourcesAt builtin.argument? args (sources_builtin h)
          | none =>
              rw [hbuiltin] at h
              cases hdeclared : declared name with
              | false => simp [hdeclared, TypeExpr.any, TypeExpr.sources] at h
              | true =>
                  simp only [hdeclared, if_true, TypeExpr.sources_apply, sources_fillUp] at h
                  rcases List.mem_append.mp h with hself | hargs
                  · obtain rfl : source = name := by simpa [TypeExpr.sources] using hself
                    exact Or.inr ⟨by simp, hdeclared⟩
                  · exact (needs_of_mem_sourcesOf args hargs).imp_right fun ⟨hmem, hyes⟩ =>
                      ⟨List.mem_append_left _ hmem, hyes⟩

theorem needs_of_mem_sourcesOf :
    ∀ ts : List TypeRef, source ∈ (env.targets declared ts).flatMap TypeExpr.sources →
      env.custom.Mentions source ∨ (source ∈ env.needsOf ts ∧ declared source = true)
  | [], h => by simp [targets] at h
  | t :: rest, h => by
      simp only [targets, List.flatMap_cons] at h
      rcases List.mem_append.mp h with hfirst | hrest
      · exact (needs_of_mem_sources t hfirst).imp_right fun ⟨hmem, hyes⟩ =>
          ⟨List.mem_append_left _ hmem, hyes⟩
      · exact (needs_of_mem_sourcesOf rest hrest).imp_right fun ⟨hmem, hyes⟩ =>
          ⟨List.mem_append_right _ hmem, hyes⟩

theorem needs_of_mem_sourcesAt :
    ∀ (position : Option Nat) (ts : List TypeRef),
      source ∈ (env.targetAt declared position ts).sources →
        env.custom.Mentions source ∨ (source ∈ env.needsAt position ts ∧ declared source = true)
  | none, _, h | some _, [], h => by simp [targetAt, TypeExpr.any, TypeExpr.sources] at h
  | some 0, t :: _, h => by
      simp only [targetAt] at h
      simpa only [needsAt] using needs_of_mem_sources t h
  | some (n + 1), _ :: rest, h => by
      simp only [targetAt] at h
      simpa only [needsAt] using needs_of_mem_sourcesAt (some n) rest h

end

end Env

/-! ## Bodies -/

/-- Everything that the body of a filled declaration refers to has a declaration, when neither chosen
targets nor the wrapper of results refer to declarations of their own. -/
theorem Filled.contains_of_part {strategy : Nullability} {table : Table} {d : Descriptor}
    {c : Converter} {e : Declaration} (h : Filled env strategy table d c e)
    (hplain : env.custom.Plain) (hwrapper : ∀ w, c.wrapper? = some w → w.sources = [])
    {t : TypeExpr} (ht : t ∈ e.body.types) (hpart : (TypeExpr.declared source).PartOf t) :
    table.contains source = true := by
  obtain ⟨declared, _, honly, hbody⟩ := h.body
  rw [hbody] at ht
  obtain ⟨r, hr, hcases⟩ := Converter.mem_types_body ht
  have hsource : source ∈ (env.target declared r).sources := by
    have hmem := TypeExpr.mem_sources_iff.mpr hpart
    rcases hcases with rfl | ⟨w, hw, rfl⟩
    · exact hmem
    · simpa [TypeExpr.sources_apply, hwrapper w hw] using hmem
  obtain ⟨hneeds, hdeclared⟩ :=
    (Env.needs_of_mem_sources r hsource).resolve_left (hplain.not_mentions source)
  rcases honly source hdeclared with hdecl | hthere
  · exact h.closed source (List.mem_flatMap.mpr ⟨r, hr, hneeds⟩) hdecl
  · exact hthere

end TypeGraph
