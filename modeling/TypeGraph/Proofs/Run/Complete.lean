import TypeGraph.Printed.File
import TypeGraph.Proofs.Configuration.Setup
import TypeGraph.Proofs.Run.Roles

/-!
# Runs are complete

At the end of a run nothing is missing, dangling or left empty, and nothing is declared without a cause.
After each of the three passes all declarations so far are filled in and reached from the classified
types (`Setup.Settled`), and a pass starts from there: enums lead nowhere, models to everything that
`Setup.FromModels` tells, and the last pass to the rest.
-/

namespace TypeGraph

open Relation (ReflTransGen)

/-- What can be reached stays so when there are more roots and the converters of the types on the way
stay the same. -/
theorem Env.Reaches.imp {env : Env} {assigned assigned' : Descriptor → Converter → Prop}
    {roots roots' : String → Prop} {y : String} (h : env.Reaches assigned roots y)
    (hroots : ∀ x, roots x → roots' x)
    (hassigned : ∀ x d k, env.Reaches assigned roots x → env.index.find? x = some d →
      assigned d k → assigned' d k) : env.Reaches assigned' roots' y := by
  obtain ⟨x, hx, hpath⟩ := h
  induction hpath with
  | refl => exact ⟨x, hroots x hx, .refl⟩
  | tail hbefore hstep ih =>
      obtain ⟨z, hz, hpath'⟩ := ih
      obtain ⟨d, k, hfind, hto, hneeds, hdecl⟩ := hstep
      have hgoes := hassigned _ d k ⟨x, hx, hbefore⟩ hfind hto
      exact ⟨z, hz, hpath'.tail ⟨d, k, hfind, hgoes, hneeds, hdecl⟩⟩

namespace Setup

variable {s : Setup} {index : Index} {cl : Classification} {t u : Conversion} {name : String}

theorem Converts.from_setup {d : Descriptor} {k : Converter} (h : s.Converts index cl d k) :
    k = .enum ∨ s.converters.model = some k ∨ s.converters.rest = some k := by
  cases h with
  | enum _ => exact Or.inl rfl
  | model _ _ hconv => exact Or.inr (Or.inl hconv)
  | rest _ _ _ _ hconv => exact Or.inr (Or.inr hconv)
  | found _ _ _ hconv =>
      rcases Converters.for?_cases hconv with ⟨_, rfl⟩ | ⟨_, _, hrest⟩ | ⟨_, _, hmodel⟩
      · exact Or.inl rfl
      · exact Or.inr (Or.inr hrest)
      · exact Or.inr (Or.inl hmodel)

/-! ## Between passes -/

/-- An identity that is classified and has no chosen target. -/
def IsRoot (s : Setup) (cl : Classification) (name : String) : Prop :=
  cl.contains name = true ∧ s.custom.contains name = false

/-- Between passes nothing waits, and each declaration is filled in by the converter of its type and
reached from the classified types. -/
structure Settled (s : Setup) (index : Index) (cl : Classification) (t : Conversion) : Prop where
  sources : t.table.sources.Nodup
  pending : t.pending = []
  populated : ∀ e ∈ t.table.declarations, e.progress = .populated
  filled : ∀ e ∈ t.table.declarations, ∃ d k, s.Converts index cl d k ∧
    Filled (s.env index) s.nullability t.table d k e
  reached : ∀ e ∈ t.table.declarations,
    (s.env index).Reaches (s.Converts index cl) (s.IsRoot cl) e.source

/-- A pass over known types goes from one settled state to another, provided that the converters it
uses are those of the types that it comes to. -/
theorem Settled.pass {assigned : Descriptor → Converter → Prop} {types : List Descriptor}
    (h : s.Settled index cl t)
    (hunder : (Conversion.passOf (s.env index) s.nullability assigned t types).Underway [] u)
    (hpending : u.pending = []) (htypes : ∀ d ∈ types, cl.contains d.name = true)
    (hassigned : ∀ d k,
      (Conversion.passOf (s.env index) s.nullability assigned t types).Reaches d.name →
        index.find? d.name = some d → assigned d k → s.Converts index cl d k) :
    s.Settled index cl u := by
  have hmore : ∀ x, t.table.contains x = true → u.table.contains x = true := by
    intro x hx
    obtain ⟨e, he, hsource⟩ := Table.contains_iff.mp hx
    exact Table.contains_iff.mpr ⟨e, hunder.kept e he, hsource⟩
  -- sources are distinct, so a declaration of an old source is the old declaration
  have hold : ∀ e ∈ u.table.declarations, t.table.contains e.source = true →
      e ∈ t.table.declarations := by
    intro e he hbefore
    obtain ⟨o, ho, hsource⟩ := Table.contains_iff.mp hbefore
    exact Table.eq_of_source_eq hunder.sources (hunder.kept o ho) he hsource ▸ ho
  have hfinished := hunder.finished hpending
  have hroots : ∀ x, (∃ d ∈ types, d.name = x ∧ t.accepts (s.env index) d = true) → s.IsRoot cl x := by
    rintro _ ⟨d, hd, rfl, hacc⟩
    exact ⟨htypes d hd, (Conversion.accepts_iff.mp hacc).1⟩
  refine ⟨hunder.sources, hpending, ?_, ?_, ?_⟩
  · intro e he
    cases hbefore : t.table.contains e.source with
    | true => exact h.populated e (hold e he hbefore)
    | false => exact (hfinished e he hbefore).1
  · intro e he
    cases hbefore : t.table.contains e.source with
    | true =>
        obtain ⟨d, k, hconverts, hfilled⟩ := h.filled e (hold e he hbefore)
        exact ⟨d, k, hconverts, hfilled.mono hmore⟩
    | false =>
        obtain ⟨_, d, k, hto, hfilled⟩ := hfinished e he hbefore
        have hname : d.name = e.source := Index.name_of_find? hfilled.known
        refine ⟨d, k, hassigned d k ?_ ?_ hto, hfilled⟩
        · rw [hname]
          exact hunder.reached e he hbefore
        · rw [hname]
          exact hfilled.known
  · intro e he
    cases hbefore : t.table.contains e.source with
    | true => exact h.reached e (hold e he hbefore)
    | false =>
        refine Env.Reaches.imp (hunder.reached e he hbefore) hroots ?_
        intro x d k hx hfind hto
        have hname : d.name = x := Index.name_of_find? hfind
        exact hassigned d k (hname ▸ hx) (hname ▸ hfind) hto

/-- Before the first pass there is nothing to be settled. -/
theorem settled_of_empty (htable : t.table = {}) (hpending : t.pending = []) :
    s.Settled index cl t := by
  refine ⟨?_, hpending, ?_, ?_, ?_⟩ <;> simp [htable, Table.sources]

/-! ## The types of a role -/

theorem mem_of_known {names : Names} {d : Descriptor} (hknown : index.find? name = some d)
    (hmem : name ∈ names) : d ∈ names.toList.filterMap index.find? :=
  List.mem_filterMap.mpr ⟨name, hmem, hknown⟩

/-- After a pass over the types of a role each of them without a chosen target has a declaration. -/
theorem contains_of_role {assigned : Descriptor → Converter → Prop} {names : Names}
    (hunder : (Conversion.passOf (s.env index) s.nullability assigned t
      (names.toList.filterMap index.find?)).Underway [] u)
    (hknown : ∃ d, index.find? name = some d) (hmem : name ∈ names)
    (hcustom : s.custom.contains name = false) : u.table.contains name = true := by
  obtain ⟨d, hfind⟩ := hknown
  have hname : d.name = name := Index.name_of_find? hfind
  cases hbefore : t.table.contains name with
  | true =>
      obtain ⟨e, he, hsource⟩ := Table.contains_iff.mp hbefore
      exact Table.contains_iff.mpr ⟨e, hunder.kept e he, hsource⟩
  | false =>
      refine hunder.rooted name ⟨d, mem_of_known hfind hmem, hname, ?_⟩
      rw [Conversion.accepts_iff, hname]
      exact ⟨hcustom, hbefore⟩

/-! ## The three passes -/

/-- Enums go to their converter. -/
def DuringEnums (d : Descriptor) (k : Converter) : Prop := d.isEnum = true ∧ k = .enum

/-- An enum leads nowhere, so the pass over the enums stays where it began. -/
theorem root_of_reaches_enums {types : List Descriptor}
    (h : (Conversion.passOf (s.env index) s.nullability DuringEnums t types).Reaches name) :
    ∃ d ∈ types, d.name = name ∧ t.accepts (s.env index) d = true := by
  obtain ⟨y, hy, hpath⟩ := h
  rcases hpath.cases_tail with rfl | ⟨_, _, d, k, _, ⟨_, rfl⟩, hneeds, _⟩
  · exact hy
  · simp [Converter.references] at hneeds

theorem duringEnums_of_mem (hsound : cl.Sound index) {d : Descriptor}
    (hd : d ∈ cl.enums.toList.filterMap index.find?) : DuringEnums d .enum := by
  obtain ⟨hfind, hmem⟩ := known_of_mem hd
  obtain ⟨o, ho, henum⟩ := hsound.enums d.name hmem
  obtain rfl : d = o := Option.some.inj (hfind.symm.trans ho)
  exact ⟨henum, rfl⟩

/-- The pass over the enums finds nothing on the way. -/
theorem foundAssigned_enums {types : List Descriptor} :
    (Conversion.passOf (s.env index) s.nullability DuringEnums t types).FoundAssigned s.converters :=
  fun _ _ _ _ _ hroot hreach _ => absurd (root_of_reaches_enums hreach) hroot

/-- The pass over the enums: only they are declared. -/
theorem enums_spec (hsound : cl.Sound index) (ht : s.Settled index cl t) (hempty : t.table = {})
    (h : s.convertRole index (some .enum) cl.enums t = .ok u) :
    s.Settled index cl u ∧
      (∀ x ∈ cl.enums, s.custom.contains x = false → u.table.contains x = true) ∧
      ∀ e ∈ u.table.declarations, e.source ∈ cl.enums := by
  obtain ⟨hunder, hpending⟩ := Conversion.convertRole_spec ht.sources ht.pending
    (fun d hd => (known_of_mem hd).1) (fun d hd _ => duringEnums_of_mem hsound hd)
    foundAssigned_enums h
  refine ⟨ht.pass hunder hpending ?_ ?_, ?_, ?_⟩
  · intro d hd
    simp [Classification.contains, (known_of_mem hd).2]
  · rintro d k _ _ ⟨henum, rfl⟩
    exact .enum henum
  · intro x hx hcustom
    obtain ⟨d, hfind, _⟩ := hsound.enums x hx
    exact contains_of_role hunder ⟨d, hfind⟩ hx hcustom
  · intro e he
    have hbefore : t.table.contains e.source = false := by
      rw [hempty]
      rfl
    obtain ⟨d, hd, hname, _⟩ := root_of_reaches_enums (hunder.reached e he hbefore)
    exact hname ▸ (known_of_mem hd).2

/-- Whether the pass over the models has declared the identities that models lead to. -/
def ModelsDeclared (s : Setup) (index : Index) (cl : Classification) (u : Conversion) : Prop :=
  (∀ x ∈ cl.models, s.custom.contains x = false → u.table.contains x = true) ∧
    ∀ x, s.FromModels index cl x → u.table.contains x = true

/-- The pass over the models declares all that they lead to: a declaration on the way either was filled
in by the pass, and then what it needs is declared, or is an enum, and needs nothing. -/
theorem contains_of_fromModels {types : List Descriptor} (hsound : cl.Sound index)
    (hunder : (Conversion.passOf (s.env index) s.nullability (s.DuringModels cl) t types).Underway [] u)
    (hpending : u.pending = []) (honly : ∀ e ∈ t.table.declarations, e.source ∈ cl.enums)
    (hmodels : ∀ x ∈ cl.models, s.custom.contains x = false → u.table.contains x = true)
    (h : s.FromModels index cl name) : u.table.contains name = true := by
  obtain ⟨y, ⟨hy, hcustom⟩, hpath⟩ := h
  induction hpath with
  | refl => exact hmodels y hy hcustom
  | @tail b z _ hstep ih =>
      obtain ⟨d, k, hfind, hto, hneeds, hdecl⟩ := hstep
      obtain ⟨e, he, rfl⟩ := Table.contains_iff.mp ih
      cases hbefore : t.table.contains e.source with
      | true =>
          -- what was declared before is an enum, so the path cannot go on from it
          obtain ⟨o, ho, hsource⟩ := Table.contains_iff.mp hbefore
          obtain ⟨o', hfind', henum⟩ := hsound.enums e.source (hsource ▸ honly o ho)
          obtain rfl : d = o' := Option.some.inj (hfind.symm.trans hfind')
          have hname : d.name = e.source := Index.name_of_find? hfind
          obtain rfl : k = .enum := hto.eq_enum hsound (hname ▸ hfind) henum
          simp [Converter.references] at hneeds
      | false =>
          obtain ⟨_, d', k', hto', hfilled⟩ := hunder.finished hpending e he hbefore
          obtain rfl : d = d' := Option.some.inj (hfind.symm.trans hfilled.known)
          obtain rfl : k = k' := hto.unique hto'
          exact hfilled.closed z hneeds hdecl

/-- The pass over the models declares them and all that they lead to. -/
theorem models_spec (hsound : cl.Sound index)
    (hchecked : cl.models.isEmpty = true ∨ ∃ m, s.converters.model = some m)
    (ht : s.Settled index cl t) (honly : ∀ e ∈ t.table.declarations, e.source ∈ cl.enums)
    (h : s.convertRole index s.converters.model cl.models t = .ok u) :
    s.Settled index cl u ∧ s.ModelsDeclared index cl u := by
  cases hmodel : s.converters.model with
  | none =>
      rw [hmodel] at h hchecked
      obtain rfl := Except.ok.inj h
      have hnone : ∀ x, x ∉ cl.models := Names.not_mem_of_isEmpty (by simpa using hchecked)
      refine ⟨ht, fun x hx => absurd hx (hnone x), ?_⟩
      rintro x ⟨y, ⟨hy, _⟩, _⟩
      exact absurd hy (hnone y)
  | some m =>
      rw [hmodel] at h
      set types := cl.models.toList.filterMap index.find?
      have hroot : ∀ d ∈ types, s.DuringModels cl d m :=
        fun d hd => duringModels_of_mem (known_of_mem hd).2 hmodel
      have hfound : (Conversion.passOf (s.env index) s.nullability (s.DuringModels cl) t
          types).FoundAssigned s.converters := by
        intro d k hfind hdecl hbefore hnot _ hconv
        -- a model would have been registered when the pass began
        refine duringModels_of_not_mem (fun hmem => hnot ⟨d, mem_of_known hfind hmem, rfl, ?_⟩) hconv
        exact Conversion.accepts_iff.mpr ⟨Conversion.not_custom_of_isDeclarable hdecl, hbefore⟩
      obtain ⟨hunder, hpending⟩ := Conversion.convertRole_spec ht.sources ht.pending
        (fun d hd => (known_of_mem hd).1) (fun d hd _ => hroot d hd) hfound h
      have hfrom : ∀ x, (Conversion.passOf (s.env index) s.nullability (s.DuringModels cl) t
          types).Reaches x → s.FromModels index cl x := by
        intro x hx
        refine Env.Reaches.imp hx ?_ (fun _ _ _ _ _ hto => hto)
        rintro _ ⟨d, hd, rfl, hacc⟩
        exact ⟨(known_of_mem hd).2, (Conversion.accepts_iff.mp hacc).1⟩
      have hmodels : ∀ x ∈ cl.models, s.custom.contains x = false → u.table.contains x = true := by
        intro x hx hcustom
        obtain ⟨d, hfind, _⟩ := hsound.models x hx
        exact contains_of_role hunder ⟨d, hfind⟩ hx hcustom
      refine ⟨ht.pass hunder hpending ?_ ?_, hmodels, ?_⟩
      · intro d hd
        simp [Classification.contains, (known_of_mem hd).2]
      · intro d k hreach hfind hto
        exact hto.converts hsound hfind (hfrom d.name hreach)
      · exact fun x hx => contains_of_fromModels hsound hunder hpending honly hmodels hx

/-- A type without a declaration once the models are converted is no model, and models do not lead
to it. -/
theorem ModelsDeclared.free (h : s.ModelsDeclared index cl t) (hcustom : s.custom.contains name = false)
    (hnot : t.table.contains name = false) : name ∉ cl.models ∧ ¬ s.FromModels index cl name := by
  constructor
  · intro hmem
    exact Bool.false_ne_true (hnot.symm.trans (h.1 name hmem hcustom))
  · intro hfrom
    exact Bool.false_ne_true (hnot.symm.trans (h.2 name hfrom))

/-- A type that the pass over the types with endpoints begins with goes to their converter. -/
theorem converts_rest {r : Converter} {d : Descriptor} (hsound : cl.Sound index)
    (hbefore : s.ModelsDeclared index cl t) (hrest : s.converters.rest = some r)
    (hd : d ∈ cl.rests.toList.filterMap index.find?) (hacc : t.accepts (s.env index) d = true) :
    s.Converts index cl d r := by
  obtain ⟨hfind, hmem⟩ := known_of_mem hd
  obtain ⟨o, ho, hno⟩ := hsound.rests d.name hmem
  obtain rfl : d = o := Option.some.inj (hfind.symm.trans ho)
  obtain ⟨hcustom, hnot⟩ := Conversion.accepts_iff.mp hacc
  obtain ⟨hmodel, hfrom⟩ := hbefore.free hcustom hnot
  exact .rest hno hmodel hmem hfrom hrest

/-- One of the types that the pass over the types with endpoints begins with is not found on the
way. -/
theorem not_mem_rests_of_found {d : Descriptor} (hfind : index.find? d.name = some d)
    (hdecl : (s.env index).isDeclarable d.name = true) (hnot : t.table.contains d.name = false)
    (hnoroot : ¬ (Conversion.passOf (s.env index) s.nullability (s.Converts index cl) t
      (cl.rests.toList.filterMap index.find?)).roots d.name) : d.name ∉ cl.rests := by
  intro hmem
  refine hnoroot ⟨d, mem_of_known hfind hmem, rfl, ?_⟩
  exact Conversion.accepts_iff.mpr ⟨Conversion.not_custom_of_isDeclarable hdecl, hnot⟩

/-- A type that the pass over the types with endpoints finds on the way goes to the converter for such
types. -/
theorem foundAssigned_rests (hbefore : s.ModelsDeclared index cl t) :
    (Conversion.passOf (s.env index) s.nullability (s.Converts index cl) t
      (cl.rests.toList.filterMap index.find?)).FoundAssigned s.converters := by
  intro d k hfind hdecl hnot hnoroot _ hconv
  cases henum : d.isEnum with
  | true =>
      rw [for?_enum henum] at hconv
      obtain rfl := Except.ok.inj hconv
      exact .enum henum
  | false =>
      have hfree := hbefore.free (Conversion.not_custom_of_isDeclarable hdecl) hnot
      have hnorest := not_mem_rests_of_found hfind hdecl hnot hnoroot
      exact .found henum hfree.1 (fun hmem => absurd hmem hnorest) hconv

/-- The pass over the types with endpoints. -/
theorem rests_spec (hsound : cl.Sound index)
    (hchecked : cl.rests.isEmpty = true ∨ ∃ r, s.converters.rest = some r)
    (ht : s.Settled index cl t) (hbefore : s.ModelsDeclared index cl t)
    (h : s.convertRole index s.converters.rest cl.rests t = .ok u) :
    s.Settled index cl u ∧
      ∀ x ∈ cl.rests, s.custom.contains x = false → u.table.contains x = true := by
  cases hrest : s.converters.rest with
  | none =>
      rw [hrest] at h hchecked
      obtain rfl := Except.ok.inj h
      refine ⟨ht, ?_⟩
      intro x hx _
      exact absurd hx (Names.not_mem_of_isEmpty (by simpa using hchecked) x)
  | some r =>
      rw [hrest] at h
      obtain ⟨hunder, hpending⟩ := Conversion.convertRole_spec ht.sources ht.pending
        (fun d hd => (known_of_mem hd).1)
        (fun d hd hacc => converts_rest hsound hbefore hrest hd hacc) (foundAssigned_rests hbefore) h
      refine ⟨ht.pass hunder hpending ?_ (fun _ _ _ _ hto => hto), ?_⟩
      · intro d hd
        simp [Classification.contains, (known_of_mem hd).2]
      · intro x hx hcustom
        obtain ⟨d, hfind, _⟩ := hsound.rests x hx
        exact contains_of_role hunder ⟨d, hfind⟩ hx hcustom

/-! ## Whole runs -/

variable {discovery : Discovery} {outcome : Outcome}

/-- A run ends settled, and every classified type without a chosen target has a declaration. -/
theorem settled_of_run (h : s.run discovery = .ok outcome) :
    ∃ final : Conversion, outcome.graph = final.graph ∧
      s.Settled (Setup.index discovery) (s.classified discovery) final ∧
        ∀ x, s.IsRoot (s.classified discovery) x → final.table.contains x = true := by
  obtain ⟨start, enums, models, final, hpasses, hgraph⟩ := exists_passes h
  have hsound := sound_classified s discovery
  obtain ⟨hmodelConv, hrestConv⟩ := converter_of_checked hpasses.checked
  obtain ⟨_, hempty, hpending⟩ := hpasses.created
  obtain ⟨henums, henumsIn, honly⟩ :=
    enums_spec hsound (settled_of_empty hempty hpending) hempty hpasses.enumsDone
  obtain ⟨hmodels, hdeclared⟩ := models_spec hsound hmodelConv henums honly hpasses.modelsDone
  obtain ⟨hfinal, hrestsIn⟩ := rests_spec hsound hrestConv hmodels hdeclared hpasses.restsDone
  refine ⟨final, hgraph, hfinal, ?_⟩
  rintro x ⟨hmem, hcustom⟩
  have hmodelsFinal := moves_convertRole hpasses.restsDone
  simp only [Classification.contains, Bool.or_eq_true, decide_eq_true_eq] at hmem
  rcases hmem with (henum | hmodel) | hrest
  · exact Pass.contains_of_moves ((moves_convertRole hpasses.modelsDone).trans hmodelsFinal)
      (henumsIn x henum hcustom)
  · exact Pass.contains_of_moves hmodelsFinal (hdeclared.1 x hmodel hcustom)
  · exact hrestsIn x hrest hcustom

/-- With the targets and converters of a configuration, whatever a body refers to has a declaration. -/
theorem contains_of_part {c : Configuration} (hsetup : c.setup = .ok s)
    (h : s.run discovery = .ok outcome) {e : Declaration}
    (he : e ∈ outcome.graph.table.declarations) {t : TypeExpr} (ht : t ∈ e.body.types)
    {source : String} (hpart : (TypeExpr.declared source).PartOf t) :
    outcome.graph.table.contains source = true := by
  obtain ⟨final, hgraph, hsettled, _⟩ := settled_of_run h
  rw [hgraph] at he ⊢
  obtain ⟨d, k, hconverts, hfilled⟩ := hsettled.filled e he
  exact hfilled.contains_of_part (Configuration.plain_of_setup hsetup)
    (fun w hw => Configuration.wrapper_of_setup hsetup hconverts.from_setup hw) ht hpart

end Setup

/-- The output of a run is complete: nothing in it is left empty, nothing that it refers to is missing,
every classified type has its declaration, and every declaration has a cause. -/
structure Outcome.Complete (outcome : Outcome) (s : Setup) (discovery : Discovery) : Prop where
  populated : ∀ e ∈ outcome.graph.table.declarations, e.progress = .populated
  /-- What a body refers to, at any depth, has a declaration. -/
  closed : ∀ e ∈ outcome.graph.table.declarations, ∀ t ∈ e.body.types, ∀ source,
    (TypeExpr.declared source).PartOf t → outcome.graph.table.contains source = true
  once : ∀ name, (s.classified discovery).contains name = true → s.custom.contains name = false →
    outcome.graph.table.sources.count name = 1
  /-- A declaration says what the converter of its type makes of it. -/
  converted : ∀ e ∈ outcome.graph.table.declarations, ∃ d k,
    s.Converts (Setup.index discovery) (s.classified discovery) d k ∧
      Filled (s.env (Setup.index discovery)) s.nullability outcome.graph.table d k e
  /-- A declared identity is classified, or reached from such ones through types that each lead to the
  next: the converter of the one resolves a reference to the other, for which a declaration can be
  made. -/
  caused : ∀ e ∈ outcome.graph.table.declarations,
    (s.env (Setup.index discovery)).Reaches
      (s.Converts (Setup.index discovery) (s.classified discovery))
      (s.IsRoot (s.classified discovery)) e.source

/-! ## A small run -/

/-- A shop: orders and lines refer to each other, an enum in another package has the name of a class,
and a desk counts orders. -/
def shopTypes : List Descriptor :=
  [{ name := "shop.Desk", kind := .classType, markers := [.restController]
     methods := [{ name := "count", returns := .primitive .int
                   markers := [.requestMapping "/orders" none] }] },
   { name := "shop.Order", kind := .classType
     fields := [{ name := "lines", type := .named "java.util.List" [.named "shop.stock.Line" []] },
                { name := "state", type := .named "shop.stock.Order" [] }] },
   { name := "shop.stock.Line", kind := .classType
     fields := [{ name := "order", type := .named "shop.Order" [] }] },
   { name := "shop.stock.Order", kind := .enum, constants := ["OPEN", "DONE"] }]

/-- Desks have endpoints, and everything else is a model. -/
def shop : Configuration :=
  { packages := ["shop"]
    modelFilter := .not (.hasMarker .restController), model := some {}
    restFilter := .hasMarker .restController, rest := some {} }

/-- The setup of the shop. -/
def shopSetup : Setup :=
  { modelFilter := .not (.hasMarker .restController), restFilter := .hasMarker .restController
    nullability := .standard, placement := .byDepth 2
    converters := { model := some (.model false), rest := some (.rest (.global "Promise")) }
    custom := ∅ }

/-- The shop as the input of a run. -/
def shopInput : Discovery := .ofTypes shopTypes ["shop"]

theorem exists_outcome {s : Setup} {discovery : Discovery} (h : (s.run discovery).isOk = true) :
    ∃ outcome, s.run discovery = .ok outcome := by
  cases hrun : s.run discovery with
  | ok outcome => exact ⟨outcome, rfl⟩
  | error e =>
      rw [hrun] at h
      exact absurd h Bool.false_ne_true

/-- A run whose outcome has a view to show ends with such an outcome. -/
theorem exists_outcome_of_view {s : Setup} {discovery : Discovery} {α : Type} {view : Outcome → α} {a : α}
    (h : (s.run discovery).toOption.map view = some a) :
    ∃ outcome, s.run discovery = .ok outcome ∧ view outcome = a := by
  cases hrun : s.run discovery with
  | ok outcome =>
      rw [hrun] at h
      exact ⟨outcome, rfl, Option.some.inj h⟩
  | error e =>
      rw [hrun] at h
      exact absurd h (by simp [Except.toOption])

/-- What is declared for the shop: the sources with their modules and declarations. -/
def shopDeclarations : List (String × ModulePath × String) :=
  [("shop.stock.Order", ["shop.stock"],
      "export enum Order \x7b\n    OPEN = 'OPEN',\n    DONE = 'DONE',\n\x7d\n"),
    ("shop.Order", ["shop"],
      "export interface Order \x7b\n    lines: Line[];\n    state: Order;\n\x7d\n"),
    ("shop.stock.Line", ["shop.stock"], "export interface Line \x7b\n    order: Order;\n\x7d\n"),
    ("shop.Desk", ["shop"],
      "export interface Desk \x7b\n    /**\n     * ANY /orders\n     */\n" ++
        "    count(): Promise<number>;\n\x7d\n")]

theorem declarations_shop : ∃ outcome, shopSetup.run shopInput = .ok outcome ∧
    (outcome.graph.table.declarations.map fun e => (e.source, e.module,
      Printed.declaration (Printed.plainNaming outcome.graph) e)) = shopDeclarations := by
  refine exists_outcome_of_view ?_
  rw [Setup.run_eq, Setup.classified_eq_classify (by decide +kernel) (by decide +kernel)]
  decide +kernel

theorem run_shop : ∃ outcome, shopSetup.run shopInput = .ok outcome := by
  obtain ⟨outcome, hrun, _⟩ := declarations_shop
  exact ⟨outcome, hrun⟩

/-- Every run of a setup that is made from a configuration ends complete. -/
theorem complete_of_run {c : Configuration} {s : Setup} {discovery : Discovery} {outcome : Outcome}
    (hsetup : c.setup = .ok s) (h : s.run discovery = .ok outcome) : outcome.Complete s discovery := by
  obtain ⟨final, hgraph, hsettled, hdeclared⟩ := Setup.settled_of_run h
  have htable : outcome.graph.table = final.table := by rw [hgraph]; rfl
  refine ⟨?_, ?_, ?_, ?_, ?_⟩
  · rw [htable]
    exact hsettled.populated
  · intro e he t ht source hpart
    exact Setup.contains_of_part hsetup h he ht hpart
  · intro name hmem hcustom
    rw [htable, hsettled.sources.count, if_pos]
    exact Table.mem_sources_iff.mpr (Table.contains_iff.mp (hdeclared name ⟨hmem, hcustom⟩))
  · rw [htable]
    exact hsettled.filled
  · rw [htable]
    exact hsettled.reached

/-- The run of the shop ends complete, with these declarations. -/
theorem complete_shop : shop.setup = .ok shopSetup ∧
    ∃ outcome, shopSetup.run shopInput = .ok outcome ∧ outcome.Complete shopSetup shopInput ∧
      (outcome.graph.table.declarations.map fun e => (e.source, e.module,
        Printed.declaration (Printed.plainNaming outcome.graph) e)) = shopDeclarations := by
  obtain ⟨outcome, hrun, hdeclarations⟩ := declarations_shop
  exact ⟨rfl, outcome, hrun, complete_of_run (c := shop) rfl hrun, hdeclarations⟩

end TypeGraph
