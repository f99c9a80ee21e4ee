import TypeGraph.Proofs.Run.Complete

/-!
# When a run fails

A run fails at once when a role has types but no converter (`Setup.Lacks`). Enums and models then go
through, and so does whatever the types with endpoints mention, since exploration has given it a role.
But exploration does not follow a type with endpoints that is only mentioned, and conversion does. From
such a type it can come to one without endpoints that has no role (`Setup.Strays`), and without a
converter of models the run fails there, late. There is no other way to fail (`run_eq_error_iff`).
-/

namespace TypeGraph

open Relation (ReflTransGen)

/-! ## What conversion needs is mentioned -/

namespace Env

variable {env : Env} {y : String}

mutual

/-- A reference needs only what it mentions, and nothing that the library has a target for. -/
theorem mem_needs : ∀ t : TypeRef, y ∈ env.needs t → y ∈ t.identities ∧ Builtin.of? y = none
  | .primitive _, h | .typeVar _, h => by simp [needs] at h
  | .array element, h => mem_needs element (by simpa only [needs] using h)
  | .named name args, h => by
      simp only [needs] at h
      split at h
      · exact absurd h List.not_mem_nil
      · split at h
        · rename_i builtin _
          obtain ⟨hmem, hnone⟩ := mem_needsAt builtin.argument? args h
          exact ⟨List.mem_cons_of_mem _ hmem, hnone⟩
        · rename_i hnone
          rcases List.mem_append.mp h with hargs | hself
          · obtain ⟨hmem, hnone'⟩ := mem_needsOf args hargs
            exact ⟨List.mem_cons_of_mem _ hmem, hnone'⟩
          · obtain rfl := List.mem_singleton.mp hself
            exact ⟨List.mem_cons_self, hnone⟩

theorem mem_needsOf : ∀ ts : List TypeRef, y ∈ env.needsOf ts →
    y ∈ TypeRef.identitiesOf ts ∧ Builtin.of? y = none
  | [], h => by simp [needsOf] at h
  | t :: rest, h => by
      rcases List.mem_append.mp h with hfirst | hrest
      · obtain ⟨hmem, hnone⟩ := mem_needs t hfirst
        exact ⟨List.mem_append_left _ hmem, hnone⟩
      · obtain ⟨hmem, hnone⟩ := mem_needsOf rest hrest
        exact ⟨List.mem_append_right _ hmem, hnone⟩

theorem mem_needsAt : ∀ (position : Option Nat) (ts : List TypeRef), y ∈ env.needsAt position ts →
    y ∈ TypeRef.identitiesOf ts ∧ Builtin.of? y = none
  | none, _, h | some _, [], h => by simp [needsAt] at h
  | some 0, t :: _, h => by
      obtain ⟨hmem, hnone⟩ := mem_needs t h
      exact ⟨List.mem_append_left _ hmem, hnone⟩
  | some (n + 1), _ :: rest, h => by
      obtain ⟨hmem, hnone⟩ := mem_needsAt (some n) rest h
      exact ⟨List.mem_append_right _ hmem, hnone⟩

end

/-- What is declared on demand for a reference can be given a role by exploration. -/
theorem usable_of_needs {t : TypeRef} {d : Descriptor} (hneeds : y ∈ env.needs t)
    (hdecl : env.isDeclarable y = true) (hfind : env.index.find? y = some d) :
    Surroundings.Usable { index := env.index, custom := env.custom } y d where
  known := hfind
  free := Conversion.not_custom_of_isDeclarable hdecl
  structural := (mem_needs t hneeds).2
  kind := by
    simp only [isDeclarable, hfind, Bool.and_eq_true] at hdecl
    simpa using hdecl.1

end Env

namespace Classification

variable {s : Surroundings} {c : Classification} {x y : String} {r d : Descriptor} {t : TypeRef}

/-- After exploration a type without endpoints has a role when a type with the role of types with
endpoints mentions it, in a supertype or in an endpoint. -/
theorem covered_of_rest (hx : x ∈ (c.explore s).rests) (hfind : s.index.find? x = some r)
    (ht : t ∈ r.supertypes ++ r.endpoints.flatMap Method.signature) (hy : y ∈ t.identities)
    (husable : s.Usable y d) (henums : y ∉ c.enums) (hnoEnum : d.isEnum = false)
    (hnoEndpoint : d.hasEndpoints = false) :
    y ∈ (c.explore s).rests ∨ y ∈ (c.explore s).models := by
  obtain ⟨hbases, _⟩ := restClosure_isLeast s c
  obtain ⟨hmentions, _⟩ := added_isLeast s c
  by_cases hmodel : y ∈ c.models
  · exact Or.inr (mem_explore_models.mpr (Or.inl hmodel))
  by_cases hrest : y ∈ (c.explore s).rests
  · exact Or.inl hrest
  -- it is no supertype then, so it is one of the seeds
  have hseed : IsSeed s (c.explore s).rests y := by
    refine ⟨x, hx, r, hfind, ?_⟩
    rcases List.mem_append.mp ht with hsuper | hsignature
    · right
      refine ⟨t, hsuper, ?_⟩
      cases hids : t.identities with
      | nil => exact absurd (hids ▸ hy) List.not_mem_nil
      | cons first others =>
          rcases List.mem_cons.mp (hids ▸ hy) with rfl | hother
          · exact absurd (hbases.base x hx r hfind t hsuper y (by rw [hids]; rfl) d husable hnoEnum
              henums hmodel) hrest
          · exact hother
    · exact Or.inl (List.mem_flatMap.mpr ⟨t, hsignature, hy⟩)
  exact Or.inr (hmentions.model y d husable henums hmodel hrest (Or.inl hseed) hnoEnum
    hnoEndpoint).1

end Classification

/-! ## Ways to fail -/

/-- A type found on the way has no converter when it is no enum, the converter for types with
endpoints does not take it, and there is none for models. -/
theorem Converters.for?_eq_error_iff {converters : Converters} {d : Descriptor} {e : Error} :
    converters.for? d = .error e ↔ e = .missingConverter .model ∧ d.isEnum = false ∧
      (d.hasEndpoints = false ∨ converters.rest = none) ∧ converters.model = none := by
  unfold Converters.for?
  cases d.isEnum <;> cases d.hasEndpoints <;> cases converters.rest <;> cases converters.model <;>
    simp [eq_comm]

namespace Setup

variable {s : Setup} {index : Index} {cl : Classification} {discovery : Discovery}
  {t u : Conversion} {e : Error} {role : Role} {outcome : Outcome} {name : String}

/-- A role has types but no converter. Enums can always be converted. -/
def Lacks (s : Setup) (c : Classification) : Role → Prop
  | .enum => False
  | .model => c.models.isEmpty = false ∧ s.converters.model = none
  | .rest => c.rests.isEmpty = false ∧ s.converters.rest = none

/-- Conversion strays from the classification to a type that nothing converts: there is no converter of
models, and it comes to a type with endpoints that has not the role of such types, which leads on to a
type without endpoints that has not that role either. -/
def Strays (s : Setup) (index : Index) (c : Classification) : Prop :=
  s.converters.model = none ∧ ∃ x r y d,
    (s.env index).Reaches (s.Converts index c) (s.IsRoot c) x ∧
    index.find? x = some r ∧ r.hasEndpoints = true ∧ x ∉ c.rests ∧
    (s.env index).Leads (s.Converts index c) x y ∧
    index.find? y = some d ∧ d.isEnum = false ∧ d.hasEndpoints = false ∧ y ∉ c.rests

theorem checkConverters_eq_ok_iff :
    s.checkConverters cl = .ok () ↔ ¬ s.Lacks cl .model ∧ ¬ s.Lacks cl .rest := by
  unfold checkConverters Lacks
  cases cl.models.isEmpty <;> cases s.converters.model <;> cases cl.rests.isEmpty <;>
    cases s.converters.rest <;> simp

theorem checkConverters_eq_error_iff : s.checkConverters cl = .error e ↔
    (e = .missingConverter .model ∧ s.Lacks cl .model) ∨
      (e = .missingConverter .rest ∧ ¬ s.Lacks cl .model ∧ s.Lacks cl .rest) := by
  unfold checkConverters Lacks
  cases cl.models.isEmpty <;> cases s.converters.model <;> cases cl.rests.isEmpty <;>
    cases s.converters.rest <;> simp [eq_comm]

/-! ## Passes that cannot fail -/

/-- The pass over the enums succeeds: it finds nothing on the way. -/
theorem exists_enums (hsound : cl.Sound index) (ht : s.Settled index cl t) :
    ∃ u, s.convertRole index (some .enum) cl.enums t = .ok u := by
  cases h : s.convertRole index (some .enum) cl.enums t with
  | ok u => exact ⟨u, rfl⟩
  | error e =>
      obtain ⟨u, d, u', hunder, htake, _⟩ := Conversion.convertRole_fails ht.sources ht.pending
        (fun d hd => (known_of_mem hd).1) (fun d hd _ => duringEnums_of_mem hsound hd)
        foundAssigned_enums h
      obtain ⟨_, _, _, hroot, hreach⟩ := hunder.of_takePending htake
      exact absurd (root_of_reaches_enums hreach) hroot

/-- The pass over the models succeeds: their converter takes whatever it finds on the way. -/
theorem exists_models (s : Setup) (index : Index) (names : Names) (t : Conversion) :
    ∃ u, s.convertRole index s.converters.model names t = .ok u := by
  cases hmodel : s.converters.model with
  | none => exact ⟨t, rfl⟩
  | some m =>
      cases h : s.convertRole index (some m) names t with
      | ok u => exact ⟨u, rfl⟩
      | error e =>
          obtain ⟨_, d, _, _, _, hconv⟩ :=
            Conversion.drain_fails (I := fun _ => True) (fun _ _ _ _ _ _ _ => trivial) h trivial
          obtain ⟨_, _, _, hnone⟩ := Converters.for?_eq_error_iff.mp hconv
          exact absurd (hnone.symm.trans hmodel) (by simp)

/-! ## The pass that can fail -/

theorem not_mem_models_of_checked (h : s.checkConverters cl = .ok ())
    (hmodel : s.converters.model = none) : name ∉ cl.models := by
  rcases (converter_of_checked h).1 with hempty | ⟨m, hm⟩
  · exact Names.not_mem_of_isEmpty hempty name
  · exact absurd (hmodel.symm.trans hm) (by simp)

/-- What a type with the role of types with endpoints leads to has that role too, if it is no enum and
has no endpoint and there are no models. -/
theorem mem_rests_of_leads {x y : String} {r d : Descriptor} {w : TypeExpr}
    (hnomodels : ∀ z, z ∉ (s.classified discovery).models)
    (hx : x ∈ (s.classified discovery).rests) (hfind : (Setup.index discovery).find? x = some r)
    (hneeds : y ∈ ((Converter.rest w).references r).flatMap (s.env (Setup.index discovery)).needs)
    (hdecl : (s.env (Setup.index discovery)).isDeclarable y = true)
    (hknown : (Setup.index discovery).find? y = some d) (hnoEnum : d.isEnum = false)
    (hnoEndpoint : d.hasEndpoints = false) : y ∈ (s.classified discovery).rests := by
  obtain ⟨t, ht, hy⟩ := List.mem_flatMap.mp hneeds
  have henums : y ∉ (s.filtered discovery).enums := by
    intro hmem
    obtain ⟨o, ho, henum⟩ := (sound_filtered s discovery).enums y hmem
    obtain rfl : d = o := Option.some.inj (hknown.symm.trans ho)
    exact absurd (henum.symm.trans hnoEnum) (by simp)
  rcases Classification.covered_of_rest hx hfind ht (Env.mem_needs t hy).1
    (Env.usable_of_needs hy hdecl hknown) henums hnoEnum hnoEndpoint with hrest | hmodel
  · exact hrest
  · exact absurd hmodel (hnomodels y)

/-- Only a type with endpoints that has not their role leads to a type that has not that role either, is
no enum and has no endpoint. -/
theorem endpoints_of_leads {c : Configuration} {x y : String} {d : Descriptor}
    (hsetup : c.setup = .ok s) (hmodel : s.converters.model = none)
    (hnomodels : ∀ z, z ∉ (s.classified discovery).models)
    (hleads : (s.env (Setup.index discovery)).Leads
      (s.Converts (Setup.index discovery) (s.classified discovery)) x y)
    (hknown : (Setup.index discovery).find? y = some d) (hnoEnum : d.isEnum = false)
    (hnoEndpoint : d.hasEndpoints = false) (hnorest : y ∉ (s.classified discovery).rests) :
    ∃ r, (Setup.index discovery).find? x = some r ∧ r.hasEndpoints = true ∧
      x ∉ (s.classified discovery).rests := by
  obtain ⟨r, k, hfind, hto, hneeds, hdecl⟩ := hleads
  have hname : r.name = x := Index.name_of_find? hfind
  refine ⟨r, hfind, ?_⟩
  cases hto with
  | enum _ => simp [Converter.references] at hneeds
  | model _ hmem _ => exact absurd hmem (hnomodels r.name)
  | rest _ _ hmem _ hconv =>
      obtain ⟨o, _, rfl⟩ := (Configuration.converters_of_setup hsetup).2 _ hconv
      exact absurd (mem_rests_of_leads hnomodels (hname ▸ hmem) hfind hneeds hdecl hknown hnoEnum
        hnoEndpoint) hnorest
  | found _ _ hfree hconv =>
      rcases Converters.for?_cases hconv with ⟨_, rfl⟩ | ⟨_, hendpoints, _⟩ | ⟨_, _, hsome⟩
      · simp [Converter.references] at hneeds
      · refine ⟨hendpoints, fun hmem => ?_⟩
        -- without models nothing comes from them
        obtain ⟨z, ⟨hz, _⟩, _⟩ := hfree (hname ▸ hmem)
        exact hnomodels z hz
      · exact absurd (hmodel.symm.trans hsome) (by simp)

/-- The pass over the types with endpoints fails only when it strays. -/
theorem strays_of_error {c : Configuration} (hsetup : c.setup = .ok s)
    (hchecked : s.checkConverters (s.classified discovery) = .ok ())
    (ht : s.Settled (Setup.index discovery) (s.classified discovery) t)
    (hbefore : s.ModelsDeclared (Setup.index discovery) (s.classified discovery) t)
    (h : s.convertRole (Setup.index discovery) s.converters.rest (s.classified discovery).rests t =
      .error e) :
    e = .missingConverter .model ∧ s.Strays (Setup.index discovery) (s.classified discovery) := by
  have hsound := sound_classified s discovery
  cases hrest : s.converters.rest with
  | none => simp [hrest, convertRole] at h
  | some k =>
      rw [hrest] at h
      obtain ⟨_, d, _, hunder, htake, hconv⟩ := Conversion.convertRole_fails ht.sources ht.pending
        (fun d hd => (known_of_mem hd).1)
        (fun d hd hacc => converts_rest hsound hbefore hrest hd hacc) (foundAssigned_rests hbefore) h
      obtain ⟨he, hnoEnum, hwhy, hmodel⟩ := Converters.for?_eq_error_iff.mp hconv
      have hnoEndpoint : d.hasEndpoints = false := hwhy.resolve_right (by simp [hrest])
      obtain ⟨hfind, hnot, hdecl, hnoroot, x, hx, hpath⟩ := hunder.of_takePending htake
      have hnorest := not_mem_rests_of_found hfind hdecl hnot hnoroot
      -- it was not there at the beginning of the pass, so another type led to it
      rcases hpath.cases_tail with rfl | ⟨z, hz, hleads⟩
      · exact absurd hx hnoroot
      obtain ⟨o, ho, rfl, hacc⟩ := hx
      have hroot : s.IsRoot (s.classified discovery) o.name :=
        ⟨by simp [Classification.contains, (known_of_mem ho).2], (Conversion.accepts_iff.mp hacc).1⟩
      obtain ⟨r, hr, hendpoints, hzrest⟩ := endpoints_of_leads hsetup hmodel
        (fun _ => not_mem_models_of_checked hchecked hmodel) hleads hfind hnoEnum hnoEndpoint hnorest
      exact ⟨he, hmodel, z, r, d.name, d, ⟨o.name, hroot, hz⟩, hr, hendpoints, hzrest, hleads, hfind,
        hnoEnum, hnoEndpoint, hnorest⟩

/-! ## A run that strays -/

theorem Converts.unique {d : Descriptor} {k k' : Converter} (h : s.Converts index cl d k)
    (h' : s.Converts index cl d k') : k = k' := by
  cases h <;> cases h' <;> simp_all

/-- Whatever can be reached has a declaration at the end of a run. -/
theorem contains_of_reaches (ht : s.Settled index cl t)
    (hroots : ∀ x, s.IsRoot cl x → t.table.contains x = true)
    (h : (s.env index).Reaches (s.Converts index cl) (s.IsRoot cl) name) :
    t.table.contains name = true := by
  obtain ⟨x, hx, hpath⟩ := h
  induction hpath with
  | refl => exact hroots x hx
  | tail _ hstep ih =>
      obtain ⟨d, k, hfind, hto, hneeds, hdecl⟩ := hstep
      obtain ⟨e, he, rfl⟩ := Table.contains_iff.mp ih
      obtain ⟨d', k', hto', hfilled⟩ := ht.filled e he
      obtain rfl : d = d' := Option.some.inj (hfind.symm.trans hfilled.known)
      obtain rfl : k = k' := hto.unique hto'
      exact hfilled.closed _ hneeds hdecl

/-- A run that strays does not succeed: the type that it comes to would have been converted. -/
theorem not_strays_of_run (h : s.run discovery = .ok outcome) :
    ¬ s.Strays (Setup.index discovery) (s.classified discovery) := by
  rintro ⟨hmodel, x, _, y, d, hreach, _, _, _, hleads, hfind, hnoEnum, hnoEndpoint, hnorest⟩
  obtain ⟨_, _, _, _, hpasses, _⟩ := exists_passes h
  obtain ⟨final, _, hsettled, hdeclared⟩ := settled_of_run h
  obtain ⟨z, hz, hpath⟩ := hreach
  obtain ⟨e, he, rfl⟩ := Table.contains_iff.mp
    (contains_of_reaches hsettled hdeclared ⟨z, hz, hpath.tail hleads⟩)
  obtain ⟨o, k, hto, hfilled⟩ := hsettled.filled e he
  obtain rfl : d = o := Option.some.inj (hfind.symm.trans hfilled.known)
  have hname : d.name = e.source := Index.name_of_find? hfind
  cases hto with
  | enum henum => exact absurd (henum.symm.trans hnoEnum) (by simp)
  | model _ hmem _ => exact not_mem_models_of_checked hpasses.checked hmodel hmem
  | rest _ _ hmem _ _ => exact hnorest (hname ▸ hmem)
  | found _ _ _ hconv =>
      have hnone := Converters.for?_eq_error_iff.mpr ⟨rfl, hnoEnum, Or.inl hnoEndpoint, hmodel⟩
      exact absurd (hnone.symm.trans hconv) (by simp)

/-! ## Whole runs -/

/-- Conversion consists of its three passes, from a state without declarations. -/
theorem exists_start (s : Setup) (index : Index) (cl : Classification) :
    ∃ start : Conversion, start.table = {} ∧ start.pending = [] ∧ s.convertAll index cl = (do
      let enums ← s.convertRole index (some .enum) cl.enums start
      let models ← s.convertRole index s.converters.model cl.models enums
      s.convertRole index s.converters.rest cl.rests models) := by
  obtain ⟨_, htable, hpending⟩ := place_spec (s.env index)
    ((cl.enums.toList ++ cl.models.toList ++ cl.rests.toList).filterMap index.find?) {}
  exact ⟨_, htable, hpending, rfl⟩

/-- Once the check has passed, conversion fails only when it strays. -/
theorem strays_of_convertAll_error {c : Configuration} (hsetup : c.setup = .ok s)
    (hchecked : s.checkConverters (s.classified discovery) = .ok ())
    (h : s.convertAll (Setup.index discovery) (s.classified discovery) = .error e) :
    e = .missingConverter .model ∧ s.Strays (Setup.index discovery) (s.classified discovery) := by
  have hsound := sound_classified s discovery
  obtain ⟨start, htable, hpending, hpasses⟩ :=
    exists_start s (Setup.index discovery) (s.classified discovery)
  have hstart : s.Settled (Setup.index discovery) (s.classified discovery) start :=
    settled_of_empty htable hpending
  obtain ⟨enums, henums⟩ := exists_enums hsound hstart
  obtain ⟨models, hmodels⟩ :=
    exists_models s (Setup.index discovery) (s.classified discovery).models enums
  obtain ⟨hsettled, _, honly⟩ := enums_spec hsound hstart htable henums
  obtain ⟨hsettled', hdeclared⟩ :=
    models_spec hsound (converter_of_checked hchecked).1 hsettled honly hmodels
  rw [hpasses, henums] at h
  simp only [bind, Except.bind] at h
  rw [hmodels] at h
  exact strays_of_error hsetup hchecked hsettled' hdeclared h

/-- A run fails in the check before conversion or, when that has passed, where conversion strays. -/
theorem cause_of_error {c : Configuration} (hsetup : c.setup = .ok s)
    (h : s.run discovery = .error e) :
    s.checkConverters (s.classified discovery) = .error e ∨
      (s.checkConverters (s.classified discovery) = .ok () ∧ e = .missingConverter .model ∧
        s.Strays (Setup.index discovery) (s.classified discovery)) := by
  rw [run_eq] at h
  cases hchecked : s.checkConverters (s.classified discovery) with
  | error e' =>
      rw [hchecked] at h
      obtain rfl : e' = e := Except.error.inj h
      exact Or.inl rfl
  | ok =>
      rw [hchecked] at h
      cases hall : s.convertAll (Setup.index discovery) (s.classified discovery) with
      | ok final =>
          rw [hall] at h
          exact absurd h (by simp [bind, Except.bind, pure, Except.pure])
      | error e' =>
          rw [hall] at h
          obtain rfl : e' = e := Except.error.inj h
          exact Or.inr ⟨rfl, strays_of_convertAll_error hsetup hchecked hall⟩

end Setup

/-! ## A run that fails late -/

/-- A desk exchanges clerks. A clerk has an endpoint too, but not the role of a desk, and is a member of
the staff, which has no endpoints. -/
def staffInput : Discovery := .ofTypes
  [{ name := "shop.Desk", kind := .classType, markers := [.restController]
     methods := [{ name := "clerk", returns := .named "shop.Clerk" []
                   markers := [.requestMapping "/clerk" (some .get)] }] },
   { name := "shop.Clerk", kind := .classType, superclass := some (.named "shop.Staff" [])
     methods := [{ name := "title", returns := .named "java.lang.String" []
                   markers := [.requestMapping "/title" (some .get)] }] },
   { name := "shop.Staff", kind := .classType }] ["shop"]

/-- Desks have endpoints, and there are no models. -/
def desks : Configuration :=
  { packages := ["shop"], restFilter := .hasMarker .restController, rest := some {} }

/-- The setup of the desks. -/
def desksSetup : Setup :=
  { modelFilter := .rejectAll, restFilter := .hasMarker .restController
    nullability := .standard, placement := .byDepth 2
    converters := { rest := some (.rest (.global "Promise")) }
    custom := ∅ }

/-- Exploration leaves the clerk out, since it has an endpoint. -/
theorem classified_staff : desksSetup.classified staffInput = desksSetup.filtered staffInput :=
  Setup.classified_eq_classify (by decide +kernel) (by decide +kernel)

theorem not_lacks_staff (role : Role) :
    ¬ desksSetup.Lacks (desksSetup.classified staffInput) role := by
  have hnomodels : (desksSetup.classified staffInput).models.isEmpty = true := by
    rw [classified_staff]
    decide +kernel
  cases role with
  | enum => exact id
  | model => exact fun h => Bool.false_ne_true (h.1.symm.trans hnomodels)
  | rest => exact fun h => absurd h.2 (by simp [desksSetup])

/-- Conversion follows the clerk to the staff, which nothing converts. -/
theorem run_staff : ∃ e, desksSetup.run staffInput = .error e := by
  have hfails : (desksSetup.run staffInput).isOk = false := by
    rw [Setup.run_eq, classified_staff]
    decide +kernel
  cases hrun : desksSetup.run staffInput with
  | ok outcome => simp [hrun, Except.isOk, Except.toBool] at hfails
  | error e => exact ⟨e, rfl⟩

/-- A run of a setup that is made from a configuration fails in three ways only: models, or types with
endpoints, were found without a converter for them; or, although neither is so, conversion strays. -/
theorem run_eq_error_iff {c : Configuration} {s : Setup} {discovery : Discovery} {e : Error}
    (hsetup : c.setup = .ok s) : s.run discovery = .error e ↔
      (e = .missingConverter .model ∧ s.Lacks (s.classified discovery) .model) ∨
      (e = .missingConverter .rest ∧ ¬ s.Lacks (s.classified discovery) .model ∧
        s.Lacks (s.classified discovery) .rest) ∨
      (e = .missingConverter .model ∧ ¬ s.Lacks (s.classified discovery) .model ∧
        ¬ s.Lacks (s.classified discovery) .rest ∧
          s.Strays (Setup.index discovery) (s.classified discovery)) := by
  rw [← or_assoc, ← Setup.checkConverters_eq_error_iff]
  constructor
  · intro h
    rcases Setup.cause_of_error hsetup h with hfails | ⟨hok, he, hstrays⟩
    · exact Or.inl hfails
    · obtain ⟨hmodel, hrest⟩ := Setup.checkConverters_eq_ok_iff.mp hok
      exact Or.inr ⟨he, hmodel, hrest, hstrays⟩
  · rintro (hfails | ⟨he, hmodel, hrest, hstrays⟩)
    · rw [Setup.run_eq, hfails]
      rfl
    · -- it fails somehow, and not in the check
      cases hrun : s.run discovery with
      | ok outcome => exact absurd hstrays (Setup.not_strays_of_run hrun)
      | error e' =>
          rcases Setup.cause_of_error hsetup hrun with hfails | ⟨_, he', _⟩
          · rw [Setup.checkConverters_eq_ok_iff.mpr ⟨hmodel, hrest⟩] at hfails
            exact absurd hfails (by simp)
          · rw [he, he']

theorem run_staff_eq_error : desks.setup = .ok desksSetup ∧
    desksSetup.run staffInput = .error (.missingConverter .model) ∧
      desksSetup.Strays (Setup.index staffInput) (desksSetup.classified staffInput) := by
  obtain ⟨e, hrun⟩ := run_staff
  rcases (run_eq_error_iff (c := desks) rfl).mp hrun with
    ⟨_, hlacks⟩ | ⟨_, _, hlacks⟩ | ⟨rfl, _, _, hstrays⟩
  · exact absurd hlacks (not_lacks_staff .model)
  · exact absurd hlacks (not_lacks_staff .rest)
  · exact ⟨rfl, hrun, hstrays⟩

/-- The converter of models is missed although there are no models. -/
theorem not_lacks_of_run_staff : ¬ ∀ (c : Configuration) (s : Setup) (discovery : Discovery)
    (role : Role), c.setup = .ok s → s.run discovery = .error (.missingConverter role) →
      s.Lacks (s.classified discovery) role := by
  intro hall
  obtain ⟨e, hrun⟩ := run_staff
  -- a failure tells the role that it misses
  have hrole : ∃ role, e = .missingConverter role := by
    rcases Setup.cause_of_error (c := desks) rfl hrun with hfails | ⟨_, he, _⟩
    · rcases Setup.checkConverters_eq_error_iff.mp hfails with ⟨he, _⟩ | ⟨he, _⟩
      · exact ⟨_, he⟩
      · exact ⟨_, he⟩
    · exact ⟨_, he⟩
  obtain ⟨role, rfl⟩ := hrole
  exact not_lacks_staff role (hall desks desksSetup staffInput role rfl hrun)

end TypeGraph
