import TypeGraph.Proofs.Run.Models

/-!
# Type parameters of the output

When the references of known types are sound, the output is: a declaration is applied to as many arguments
as it takes wherever it is used, and the type parameters that a declaration speaks of are its own
(`WellKinded`). What a reference supplies is filled up to the number of parameters that the index
tells, and the declaration has that many in the end, whichever converter makes it and whenever: only enums
are declared without the parameters of their type, and enums have none.
-/

namespace TypeGraph

/-! ## Kinds of types -/

namespace TypeExpr

/-- Every declaration that a type refers to is applied to as many arguments as it takes, and it stands
bare if it takes none. Every parameter is one of those in scope. -/
inductive WellKinded (takes : String → Option Nat) (params : List String) : TypeExpr → Prop
  | keyword (k : Keyword) : WellKinded takes params (.keyword k)
  | global (name : String) : WellKinded takes params (.global name)
  | external (name module : String) : WellKinded takes params (.external name module)
  | parameter {name : String} (h : name ∈ params) : WellKinded takes params (.parameter name)
  | array {t : TypeExpr} (h : WellKinded takes params t) : WellKinded takes params (.array t)
  | dictionary {t : TypeExpr} (h : WellKinded takes params t) : WellKinded takes params (.dictionary t)
  | bare {source : String} (h : takes source = some 0) : WellKinded takes params (.declared source)
  | applied {source : String} {args : List TypeExpr} (hsome : args ≠ [])
      (htakes : takes source = some args.length) (hargs : ∀ t ∈ args, WellKinded takes params t) :
      WellKinded takes params (.generic (.declared source) args)
  | generic {base : TypeExpr} {args : List TypeExpr} (hfree : ∀ source, base ≠ .declared source)
      (hbase : WellKinded takes params base) (hargs : ∀ t ∈ args, WellKinded takes params t) :
      WellKinded takes params (.generic base args)

variable {takes takes' : String → Option Nat} {params : List String} {t : TypeExpr}

theorem wellKinded_ofText (name : String) (module : Option String) :
    (ofText name module).WellKinded takes params := by
  unfold ofText
  fun_induction ofReversed module name.toList.reverse with
  | case1 rest ih => exact .array ih
  | case2 reversed _ =>
      unfold ofAtom
      split
      · exact .keyword _
      · exact .external _ _
      · exact .global _

theorem wellKinded_apply_declared {source : String} {args : List TypeExpr}
    (htakes : takes source = some args.length) (hargs : ∀ t ∈ args, t.WellKinded takes params) :
    (apply (.declared source) args).WellKinded takes params := by
  cases args with
  | nil => exact .bare htakes
  | cons first rest => exact .applied (List.cons_ne_nil _ _) htakes hargs

/-- A type of a configuration may be applied to anything, as it refers to no declaration. -/
theorem wellKinded_apply_ofText {name : String} {module : Option String}
    (h : t.WellKinded takes params) : (apply (ofText name module) [t]).WellKinded takes params := by
  refine .generic ?_ (wellKinded_ofText name module) (by simpa using h)
  intro source heq
  have hnone := sources_ofText name module
  simp [heq, sources] at hnone

/-- Only what is said about the declarations that a type refers to matters. -/
theorem WellKinded.congr_takes (h : t.WellKinded takes params)
    (heq : ∀ source ∈ t.sources, takes source = takes' source) : t.WellKinded takes' params := by
  induction h with
  | keyword k => exact .keyword k
  | global name => exact .global name
  | external name module => exact .external name module
  | parameter hmem => exact .parameter hmem
  | array _ ih => exact .array (ih (by simpa only [sources] using heq))
  | dictionary _ ih => exact .dictionary (ih (by simpa only [sources] using heq))
  | bare htakes => exact .bare ((heq _ (by simp [sources])).symm.trans htakes)
  | applied hsome htakes _ ih =>
      rw [sources, sourcesOf_eq_flatMap] at heq
      refine .applied hsome ((heq _ (by simp [sources])).symm.trans htakes) fun u hu => ih u hu ?_
      exact fun x hx => heq x (List.mem_append_right _ (List.mem_flatMap.mpr ⟨u, hu, hx⟩))
  | generic hfree _ _ ihbase ihargs =>
      rw [sources, sourcesOf_eq_flatMap] at heq
      refine .generic hfree (ihbase fun x hx => heq x (List.mem_append_left _ hx))
        fun u hu => ihargs u hu ?_
      exact fun x hx => heq x (List.mem_append_right _ (List.mem_flatMap.mpr ⟨u, hu, hx⟩))

end TypeExpr

/-! ## Sound references -/

namespace TypeRef

mutual

/-- Whether a reference supplies no type with more arguments than it has parameters, and mentions no
variables but some. This is asked at every depth, and unknown types take any number of arguments. -/
def isSound (index : Index) (params : List String) : TypeRef → Bool
  | .primitive _ => true
  | .typeVar name => params.contains name
  | .array element => element.isSound index params
  | .named name args =>
    (index.find? name).all (fun d => args.length ≤ d.typeParams.length) && areSound index params args

/-- Whether some references are sound. -/
def areSound (index : Index) (params : List String) : List TypeRef → Bool
  | [] => true
  | t :: rest => t.isSound index params && areSound index params rest

end

end TypeRef

/-- Whether all references of the known types are sound, where their variables are the type parameters of
the type itself, and enums have no type parameters. -/
def Index.isSound (index : Index) : Bool :=
  index.types.all fun d =>
    d.allReferences.all (·.isSound index d.typeParams) && (!d.isEnum || d.typeParams.isEmpty)

theorem Index.isSound_iff {index : Index} : index.isSound = true ↔
    ∀ d ∈ index.types, (∀ r ∈ d.allReferences, r.isSound index d.typeParams = true) ∧
      (d.isEnum = true → d.typeParams = []) := by
  simp [isSound, Decidable.imp_iff_not_or]

/-! ## Targets -/

namespace Env

variable {env : Env} {declared : String → Bool} {params : List String}

/-- As many parameters as the index tells. -/
def takes (env : Env) (name : String) : Option Nat := some (env.arity name)

theorem wellKinded_builtin {takes : String → Option Nat} {argument : TypeExpr} {b : Builtin}
    (h : argument.WellKinded takes params) : (b.target argument).WellKinded takes params := by
  cases b with
  | keyword k => exact .keyword k
  | global name => exact .global name
  | optional => exact h
  | collection => exact .array h
  | map => exact .dictionary h

theorem length_fillUp {count : Nat} {args : List TypeExpr} (h : args.length ≤ count) :
    (fillUp count args).length = count := by
  simp [fillUp, h]

/-- Only known types count as declared, and chosen targets are well kinded. -/
structure Kinded (env : Env) (declared : String → Bool) (params : List String) : Prop where
  known : ∀ x, declared x = true → ∃ d, env.index.find? x = some d
  chosen : ∀ name t, env.custom.get? name = some t → t.WellKinded env.takes params

mutual

/-- The targets of sound references are well kinded. -/
theorem wellKinded_target (hk : env.Kinded declared params) : ∀ r : TypeRef,
    r.isSound env.index params = true → (env.target declared r).WellKinded env.takes params
  | .primitive p, _ => by
      rw [target]
      exact .keyword p.keyword
  | .typeVar name, h => by
      rw [target]
      exact .parameter (by simpa [TypeRef.isSound] using h)
  | .array element, h => by
      rw [target]
      exact .array (wellKinded_target hk element (by simpa only [TypeRef.isSound] using h))
  | .named name args, h => by
      rw [TypeRef.isSound, Bool.and_eq_true] at h
      rw [target]
      cases hcustom : env.custom.get? name with
      | some chosen => exact hk.chosen name chosen hcustom
      | none =>
          cases hbuiltin : Builtin.of? name with
          | some builtin =>
              exact wellKinded_builtin (wellKinded_targetAt hk builtin.argument? args h.2)
          | none =>
              cases hdeclared : declared name with
              | false => exact .keyword .any
              | true =>
                  -- no more is supplied than the type takes, so filling up gives exactly that many
                  obtain ⟨d, hfind⟩ := hk.known name hdeclared
                  have harity : env.arity name = d.typeParams.length := by simp [arity, hfind]
                  have hlength : (env.targets declared args).length ≤ env.arity name := by
                    simpa [harity, hfind, targets_eq_map] using h.1
                  refine TypeExpr.wellKinded_apply_declared ?_ ?_
                  · rw [length_fillUp hlength]
                    rfl
                  · intro t ht
                    rcases List.mem_append.mp ht with hgiven | hadded
                    · exact wellKinded_targets hk args h.2 t hgiven
                    · obtain rfl := List.eq_of_mem_replicate hadded
                      exact .keyword .any

theorem wellKinded_targets (hk : env.Kinded declared params) : ∀ refs : List TypeRef,
    TypeRef.areSound env.index params refs = true →
      ∀ t ∈ env.targets declared refs, t.WellKinded env.takes params
  | [], _, t, ht => by simp [targets] at ht
  | r :: rest, h, t, ht => by
      rw [TypeRef.areSound, Bool.and_eq_true] at h
      rw [targets] at ht
      rcases List.mem_cons.mp ht with rfl | hrest
      · exact wellKinded_target hk r h.1
      · exact wellKinded_targets hk rest h.2 t hrest

theorem wellKinded_targetAt (hk : env.Kinded declared params) :
    ∀ (position : Option Nat) (refs : List TypeRef), TypeRef.areSound env.index params refs = true →
      (env.targetAt declared position refs).WellKinded env.takes params
  | none, _, _ | some _, [], _ => by
      rw [targetAt]
      exact .keyword .any
  | some 0, r :: rest, h => by
      rw [TypeRef.areSound, Bool.and_eq_true] at h
      rw [targetAt]
      exact wellKinded_target hk r h.1
  | some (n + 1), r :: rest, h => by
      rw [TypeRef.areSound, Bool.and_eq_true] at h
      rw [targetAt]
      exact wellKinded_targetAt hk (some n) rest h.2

end

end Env

/-! ## Declarations -/

/-- The number of type parameters of the declaration for a source type. -/
def Table.takes (t : Table) (source : String) : Option Nat :=
  (t.find? source).map (·.body.typeParams.length)

/-- Every converter but that of enums keeps the type parameters. -/
theorem Converter.typeParams_body {k : Converter} {resolve : TypeRef → TypeExpr}
    {strategy : Nullability} {d : Descriptor} (h : k = .enum → d.typeParams = []) :
    (k.body resolve strategy d).typeParams = d.typeParams := by
  cases k with
  | enum => exact (h rfl).symm
  | model includeIgnored =>
      rw [body]
      split <;> rfl
  | rest wrapper => rfl

namespace Setup

variable {c : Configuration} {s : Setup} {discovery : Discovery} {index : Index} {cl : Classification}
  {t : Conversion} {outcome : Outcome} {e : Declaration}

/-- A declaration has the type parameters that the index tells. -/
theorem Settled.typeParams_eq (h : s.Settled index cl t) (hsetup : c.setup = .ok s)
    (hsound : index.isSound = true) (he : e ∈ t.table.declarations) :
    ∃ d, index.find? e.source = some d ∧ e.body.typeParams = d.typeParams := by
  obtain ⟨d, k, declared, hfind, hconverts, _, hbody⟩ := h.exists_body he
  refine ⟨d, hfind, ?_⟩
  rw [hbody, Converter.typeParams_body]
  intro hk
  have henum : d.isEnum = true := (hconverts.cases_of_setup hsetup).1.mpr hk
  exact (Index.isSound_iff.mp hsound d (Index.mem_of_find? hfind)).2 henum

/-- The index and the declarations agree on the number of parameters. -/
theorem Settled.takes_eq (h : s.Settled index cl t) (hsetup : c.setup = .ok s)
    (hsound : index.isSound = true) {source : String} (hcontains : t.table.contains source = true) :
    (s.env index).takes source = t.table.takes source := by
  obtain ⟨o, ho⟩ := Table.exists_find? hcontains
  obtain ⟨hmem, rfl⟩ := Table.mem_of_find? ho
  obtain ⟨d, hfind, hparams⟩ := h.typeParams_eq hsetup hsound hmem
  have hfind' : (s.env index).index.find? o.source = some d := hfind
  simp [Table.takes, ho, Env.takes, Env.arity, hfind', hparams]

/-- What counts as declared in a run is known, and what a configuration chooses are no parameters. -/
theorem kinded_of_counts {declared : String → Bool} (hsetup : c.setup = .ok s)
    (hcounts : (s.env index).Counts declared) (params : List String) :
    (s.env index).Kinded declared params := by
  refine ⟨fun x hx => ?_, fun name chosen hget => ?_⟩
  · rcases hcounts x with heq | ⟨a, ha, _⟩
    · rw [hx, eq_comm, Env.isDeclarable_eq, Bool.and_eq_true, Index.offers, Option.any_eq_true] at heq
      obtain ⟨a, ha, _⟩ := heq.1
      exact ⟨a, ha⟩
    · exact ⟨a, ha⟩
  · obtain ⟨text, module, rfl⟩ := Configuration.chosen_eq_ofText hsetup hget
    exact TypeExpr.wellKinded_ofText text module

/-- What a converter of a configuration makes of references is well kinded, if their targets are: at
most it puts them into the wrapper of results. -/
theorem wellKinded_of_mem_types {k : Converter} {resolve : TypeRef → TypeExpr} {d : Descriptor}
    {takes : String → Option Nat} {params : List String} {u : TypeExpr} (hsetup : c.setup = .ok s)
    (hk : k = .enum ∨ s.converters.model = some k ∨ s.converters.rest = some k)
    (hresolve : ∀ r ∈ d.allReferences, (resolve r).WellKinded takes params)
    (hu : u ∈ (k.body resolve s.nullability d).types) : u.WellKinded takes params := by
  obtain ⟨r, hr, hcases⟩ := Converter.mem_types_body hu
  have htarget := hresolve r (Converter.references_subset k d hr)
  rcases hcases with rfl | ⟨w, hw, rfl⟩
  · exact htarget
  · obtain ⟨name, module, rfl⟩ := Configuration.wrapper_eq_ofText hsetup hk hw
    exact TypeExpr.wellKinded_apply_ofText htarget

end Setup

/-- In every run of a setup that is made from a configuration, if the references of the known types are
sound, the types in each body apply declarations to as many arguments as they take, and speak of no type
parameters but those of the body. -/
theorem wellKinded_of_run {c : Configuration} {s : Setup} {discovery : Discovery} {outcome : Outcome}
    (hsetup : c.setup = .ok s) (h : s.run discovery = .ok outcome)
    (hsound : (Setup.index discovery).isSound = true) :
    ∀ e ∈ outcome.graph.table.declarations, ∀ t ∈ e.body.types,
      t.WellKinded outcome.graph.table.takes e.body.typeParams := by
  intro e he t ht
  obtain ⟨final, hgraph, hsettled, _⟩ := Setup.settled_of_run h
  have htable : outcome.graph.table = final.table := by rw [hgraph]; rfl
  have hclosed : ∀ source ∈ t.sources, final.table.contains source = true := by
    intro source hsource
    rw [← htable]
    exact Setup.contains_of_part hsetup h he ht (TypeExpr.mem_sources_iff.mp hsource)
  rw [htable] at he ⊢
  obtain ⟨d, k, declared, hfind, hconverts, hcounts, hbody⟩ := hsettled.exists_body he
  obtain ⟨_, hfind', hparams⟩ := hsettled.typeParams_eq hsetup hsound he
  obtain rfl := Option.some.inj (hfind.symm.trans hfind')
  have hrefs := (Index.isSound_iff.mp hsound d (Index.mem_of_find? hfind)).1
  have hkinded := Setup.kinded_of_counts hsetup hcounts d.typeParams
  have hwell : t.WellKinded (s.env (Setup.index discovery)).takes d.typeParams :=
    Setup.wellKinded_of_mem_types hsetup hconverts.from_setup
      (fun r hr => Env.wellKinded_target hkinded r (hrefs r hr)) (hbody ▸ ht)
  rw [hparams]
  exact hwell.congr_takes fun source hsource =>
    hsettled.takes_eq hsetup hsound (hclosed source hsource)

/-- Pages of anything, and orders with pages of orders and pages of nothing in particular. -/
def pages : Discovery :=
  .ofTypes [
    { name := "shop.Page", kind := .classType, typeParams := ["T"]
      fields := [{ name := "items", type := .named "java.util.List" [.typeVar "T"] },
                 { name := "next", type := .named "shop.Page" [.typeVar "T"] }] },
    { name := "shop.Order", kind := .classType
      fields := [{ name := "history", type := .named "shop.Page" [.named "shop.Order" []] },
                 { name := "notes", type := .named "shop.Page" [] }] }] ["shop"]

theorem wellKinded_pages : shop.setup = .ok shopSetup ∧ (Setup.index pages).isSound = true ∧
    ∃ outcome, shopSetup.run pages = .ok outcome ∧
      ∀ e ∈ outcome.graph.table.declarations, ∀ t ∈ e.body.types,
        t.WellKinded outcome.graph.table.takes e.body.typeParams := by
  have hsound : (Setup.index pages).isSound = true := by decide +kernel
  have hok : (shopSetup.run pages).isOk = true := by
    rw [Setup.run_eq, Setup.classified_eq_classify (by decide +kernel) (by decide +kernel)]
    decide +kernel
  obtain ⟨outcome, hrun⟩ := exists_outcome hok
  exact ⟨rfl, hsound, outcome, hrun, wellKinded_of_run (c := shop) rfl hrun hsound⟩

end TypeGraph
