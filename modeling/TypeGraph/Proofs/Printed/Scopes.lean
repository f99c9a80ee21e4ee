import TypeGraph.Proofs.Printed.Imports

/-!
# What printed identifiers denote

An identifier in a declaration denotes a type parameter of that declaration if it has one of the name,
otherwise what the module binds under the name, and otherwise a type of the surroundings (`Denotes`).
The local names of imports are kept apart from the declarations of the module and from each other, but
neither from types of the surroundings nor from type parameters. So whether identifiers denote what they
stand for is left to the names of the source types: they do exactly when these are apart
(`noCapture_iff`, `scoped_iff`), and they need not be (`captures_box`).
-/

namespace TypeGraph.Printed

variable {g : Graph} {m : Module} {d : Declaration} {i : Import} {r : TypeExpr} {x : String}
  {demands : List (String × String)} {taken : List String}

/-! ## Bound names -/

/-- The names that a module binds: those of its declarations and the local names of its imports. -/
def boundNames (g : Graph) (m : Module) : List String :=
  (g.declarationsOf m).map (·.name) ++ (boundIn g m).map (·.localName)

theorem mem_boundNames_iff : x ∈ boundNames g m ↔
    (∃ e ∈ g.declarationsOf m, e.name = x) ∨ ∃ i ∈ boundIn g m, i.localName = x := by
  rw [boundNames, List.mem_append, List.mem_map, List.mem_map]

/-- Whatever is bound, its own name is taken in the end: by itself, or it was taken before. -/
theorem name_mem_of_mem_bindAll (h : i ∈ bindAll demands taken) :
    i.name ∈ taken ++ (bindAll demands taken).map (·.localName) := by
  induction demands generalizing taken with
  | nil => exact absurd h List.not_mem_nil
  | cons demand rest ih =>
      obtain ⟨specifier, name⟩ := demand
      rw [bindAll] at h ⊢
      rw [List.map_cons]
      rcases List.mem_cons.mp h with rfl | hrest
      · -- it gets its own name unless that is taken
        by_cases htaken : name ∈ taken
        · exact List.mem_append_left _ htaken
        · have hlocal : localNameFor name specifier taken = name := by
            rw [localNameFor, if_neg htaken]
          simp [hlocal]
      · have hlater := ih hrest
        simp only [List.mem_append, List.mem_cons] at hlater ⊢
        rcases hlater with (hlocal | hbefore) | hafter
        · exact Or.inr (Or.inl hlocal)
        · exact Or.inl hbefore
        · exact Or.inr (Or.inr hafter)

/-- A module binds the own names of all that it imports. -/
theorem name_mem_boundNames (h : i ∈ boundIn g m) : i.name ∈ boundNames g m :=
  name_mem_of_mem_bindAll h

/-! ## Scopes -/

/-- What an identifier can denote in a declaration. -/
inductive Meaning where
  /-- A type parameter of the declaration. -/
  | parameter (name : String)
  /-- What the module has declared or imported. -/
  | referent (a : Referent)
  /-- A type of the surroundings. -/
  | ambient (name : String)

/-- What an identifier denotes in a declaration of a module. Type parameters come first, then what the
module binds; any other identifier is that of a type of the surroundings. -/
inductive Denotes (g : Graph) (m : Module) (d : Declaration) : String → Meaning → Prop
  | parameter {x : String} (h : x ∈ d.body.typeParams) : Denotes g m d x (.parameter x)
  | own {x : String} {e : Declaration} (hfree : x ∉ d.body.typeParams) (he : e ∈ g.declarationsOf m)
      (hname : e.name = x) : Denotes g m d x (.referent (.own e))
  | imported {x : String} {i : Import} (hfree : x ∉ d.body.typeParams) (hi : i ∈ boundIn g m)
      (hlocal : i.localName = x) : Denotes g m d x (.referent (.exported i.specifier i.name))
  | ambient {x : String} (hfree : x ∉ d.body.typeParams) (hunbound : x ∉ boundNames g m) :
      Denotes g m d x (.ambient x)

theorem Denotes.eq_parameter {a : Meaning} (h : Denotes g m d x a) (hx : x ∈ d.body.typeParams) :
    a = .parameter x := by
  cases h with
  | parameter _ => rfl
  | own hfree _ _ => exact absurd hx hfree
  | imported hfree _ _ => exact absurd hx hfree
  | ambient hfree _ => exact absurd hx hfree

theorem exists_denotes (g : Graph) (m : Module) (d : Declaration) (x : String) :
    ∃ a, Denotes g m d x a := by
  by_cases hparam : x ∈ d.body.typeParams
  · exact ⟨_, .parameter hparam⟩
  · by_cases hbound : x ∈ boundNames g m
    · rcases mem_boundNames_iff.mp hbound with ⟨e, he, hname⟩ | ⟨i, hi, hlocal⟩
      · exact ⟨_, .own hparam he hname⟩
      · exact ⟨_, .imported hparam hi hlocal⟩
    · exact ⟨_, .ambient hparam hbound⟩

/-- An identifier denotes one thing at most, since the names that a module binds are distinct. -/
theorem Denotes.unique (h : g.Owned) (hm : m ∈ g.modules.modules) {a b : Meaning}
    (ha : Denotes g m d x a) (hb : Denotes g m d x b) : a = b := by
  obtain ⟨hnames, hlocals, hapart⟩ := List.nodup_append.mp (hygienic_of_owned h hm).distinct
  -- declarations and imports share one list of names, so no name is bound by both
  have hcross : ∀ e ∈ g.declarationsOf m, ∀ i ∈ boundIn g m, e.name = x → i.localName ≠ x := by
    intro e he i hi hname hlocal
    exact hapart _ (List.mem_map_of_mem he) _ (List.mem_map_of_mem hi) (hname.trans hlocal.symm)
  cases ha with
  | parameter hin => exact (hb.eq_parameter hin).symm
  | own hfree he hname =>
      have hbound : x ∈ boundNames g m := mem_boundNames_iff.mpr (Or.inl ⟨_, he, hname⟩)
      cases hb with
      | parameter hin => exact absurd hin hfree
      | own _ he' hname' =>
          rw [List.inj_on_of_nodup_map hnames he he' (hname.trans hname'.symm)]
      | imported _ hi hlocal => exact absurd hlocal (hcross _ he _ hi hname)
      | ambient _ hunbound => exact absurd hbound hunbound
  | imported hfree hi hlocal =>
      have hbound : x ∈ boundNames g m := mem_boundNames_iff.mpr (Or.inr ⟨_, hi, hlocal⟩)
      cases hb with
      | parameter hin => exact absurd hin hfree
      | own _ he hname => exact absurd hlocal (hcross _ he _ hi hname)
      | imported _ hi' hlocal' =>
          rw [List.inj_on_of_nodup_map hlocals hi hi' (hlocal.trans hlocal'.symm)]
      | ambient _ hunbound => exact absurd hbound hunbound
  | ambient hfree hunbound =>
      cases hb with
      | parameter hin => exact absurd hin hfree
      | own _ he hname => exact absurd (mem_boundNames_iff.mpr (Or.inl ⟨_, he, hname⟩)) hunbound
      | imported _ hi hlocal =>
          exact absurd (mem_boundNames_iff.mpr (Or.inr ⟨_, hi, hlocal⟩)) hunbound
      | ambient _ _ => rfl

/-- Every identifier denotes one thing. -/
theorem existsUnique_denotes (h : g.Owned) (hm : m ∈ g.modules.modules) (d : Declaration)
    (x : String) : ∃! a, Denotes g m d x a := by
  obtain ⟨a, ha⟩ := exists_denotes g m d x
  exact ⟨a, ha, fun _ hb => hb.unique h hm ha⟩

/-! ## Captures -/

/-- A type stands in the body of a declaration, at any depth. -/
def Shows (d : Declaration) (r : TypeExpr) : Prop := ∃ t ∈ d.body.types, r.PartOf t

/-- What a type that is printed as one identifier stands for. -/
inductive StandsFor (g : Graph) (path : ModulePath) : TypeExpr → Meaning → Prop
  | referent {r : TypeExpr} {a : Referent} (h : Refers g path r a) :
      StandsFor g path r (.referent a)
  | global (name : String) : StandsFor g path (.global name) (.ambient name)
  | parameter (name : String) : StandsFor g path (.parameter name) (.parameter name)

/-- Every identifier that a module prints denotes what it stands for. -/
def Scoped (g : Graph) (m : Module) : Prop :=
  ∀ d ∈ g.declarationsOf m, ∀ r, Shows d r → ∀ a, StandsFor g m.path r a →
    Denotes g m d (type (namingOf g m) r) a

/-- Nothing that a module binds captures a type of the surroundings, and no type parameter captures a
reference. -/
structure NoCapture (g : Graph) (m : Module) : Prop where
  globals : ∀ name, Mentions g m (.global name) → name ∉ boundNames g m
  references : ∀ d ∈ g.declarationsOf m, ∀ r a, Shows d r → Refers g m.path r a →
    type (namingOf g m) r ∉ d.body.typeParams

/-- Names in a module are apart, as far as its imports do not see to it. -/
structure Apart (g : Graph) (m : Module) : Prop where
  /-- A type of the surroundings has neither the name of a declaration of the module -/
  own : ∀ name, Mentions g m (.global name) → ∀ e ∈ g.declarationsOf m, e.name ≠ name
  /-- nor that of an export which the module refers to, -/
  exported : ∀ name, Mentions g m (.global name) → ∀ r specifier, Mentions g m r →
    ¬ Refers g m.path r (.exported specifier name)
  /-- nor is it the alias of one. -/
  aliased : ∀ name, Mentions g m (.global name) → ∀ i ∈ boundIn g m, i.localName = name →
    i.name = name
  /-- A type parameter has neither the name of a declaration of the module which its own one refers to -/
  ownParameter : ∀ d ∈ g.declarationsOf m, ∀ r e, Shows d r → Refers g m.path r (.own e) →
    e.name ∉ d.body.typeParams
  /-- nor the local name of an export which it refers to. -/
  exportedParameter : ∀ d ∈ g.declarationsOf m, ∀ r specifier name, Shows d r →
    Refers g m.path r (.exported specifier name) →
      localNameOf (boundIn g m) specifier name ∉ d.body.typeParams

/-- Nothing is captured exactly when names are apart. Whether an export has to be imported under an alias
makes no difference for the types of the surroundings, since its own name is bound anyway. -/
theorem noCapture_iff : NoCapture g m ↔ Apart g m := by
  constructor
  · intro h
    refine ⟨?_, ?_, ?_, ?_, ?_⟩
    · rintro name hmention e he rfl
      exact h.globals _ hmention (mem_boundNames_iff.mpr (Or.inl ⟨e, he, rfl⟩))
    · intro name hmention r specifier hr hrefers
      -- its own name is bound even where it is imported under an alias
      obtain ⟨i, hi, _, rfl⟩ := exists_import_iff.mpr ⟨r, hr, hrefers⟩
      exact h.globals _ hmention (name_mem_boundNames hi)
    · intro name hmention i hi hlocal
      exact absurd (mem_boundNames_iff.mpr (Or.inr ⟨i, hi, hlocal⟩)) (h.globals name hmention)
    · intro d hd r e hr hrefers
      rw [← type_of_own hrefers]
      exact h.references d hd r _ hr hrefers
    · intro d hd r specifier name hr hrefers
      rw [← type_of_exported hrefers]
      exact h.references d hd r _ hr hrefers
  · intro h
    refine ⟨?_, ?_⟩
    · intro name hmention hbound
      rcases mem_boundNames_iff.mp hbound with ⟨e, he, hname⟩ | ⟨i, hi, hlocal⟩
      · exact h.own name hmention e he hname
      · -- it is no alias, so an export of the name is referred to
        have hname : i.name = name := h.aliased name hmention i hi hlocal
        obtain ⟨r, hr, hrefers⟩ := exists_import_iff.mp ⟨i, hi, rfl, hname⟩
        exact h.exported name hmention r i.specifier hr hrefers
    · intro d hd r a hr hrefers
      cases a with
      | own e =>
          rw [type_of_own hrefers]
          exact h.ownParameter d hd r e hr hrefers
      | exported specifier name =>
          rw [type_of_exported hrefers]
          exact h.exportedParameter d hd r specifier name hr hrefers

/-- A reference denotes what it refers to unless a type parameter captures it. -/
theorem denotes_of_refers (h : g.Owned) (hm : m ∈ g.modules.modules) (hd : d ∈ g.declarationsOf m)
    {a : Referent} (hr : Shows d r) (hrefers : Refers g m.path r a)
    (hfree : type (namingOf g m) r ∉ d.body.typeParams) :
    Denotes g m d (type (namingOf g m) r) (.referent a) := by
  obtain ⟨t, ht, hpart⟩ := hr
  have hhygienic := hygienic_of_owned h hm
  cases a with
  | own e =>
      obtain ⟨he, hprinted, _⟩ := hhygienic.own d hd t ht r hpart e hrefers
      exact .own hfree he hprinted.symm
  | exported specifier name =>
      obtain ⟨i, hi, rfl, rfl, hprinted, _⟩ :=
        hhygienic.imported d hd t ht r hpart specifier name hrefers
      exact .imported hfree hi hprinted.symm

/-- The identifiers of a module denote what they stand for exactly when nothing is captured, no type
parameter captures a type of the surroundings, and all type variables are declared. -/
theorem scoped_iff (h : g.Owned) (hm : m ∈ g.modules.modules) : Scoped g m ↔ NoCapture g m ∧
    ∀ d ∈ g.declarationsOf m, ∀ name, (Shows d (.global name) → name ∉ d.body.typeParams) ∧
      (Shows d (.parameter name) → name ∈ d.body.typeParams) := by
  constructor
  · intro hscoped
    refine ⟨⟨?_, ?_⟩, ?_⟩
    · rintro name ⟨d, hd, hshows⟩
      cases hscoped d hd _ hshows _ (.global name) with
      | ambient _ hunbound => exact hunbound
    · intro d hd r a hr hrefers hin
      have hdenotes := hscoped d hd r hr _ (.referent hrefers)
      exact Meaning.noConfusion (hdenotes.eq_parameter hin)
    · intro d hd name
      constructor
      · intro hshows hin
        have hdenotes := hscoped d hd _ hshows _ (.global name)
        exact Meaning.noConfusion (hdenotes.eq_parameter hin)
      · intro hshows
        cases hscoped d hd _ hshows _ (.parameter name) with
        | parameter hin => exact hin
  · rintro ⟨hnone, hparams⟩ d hd r hr a hstands
    cases hstands with
    | referent hrefers =>
        exact denotes_of_refers h hm hd hr hrefers (hnone.references d hd r _ hr hrefers)
    | global name => exact .ambient ((hparams d hd name).1 hr) (hnone.globals name ⟨d, hd, hr⟩)
    | parameter name => exact .parameter ((hparams d hd name).2 hr)

/-! ## Captures are computed -/

/-- Whether a type that stands in the body of a declaration is printed as an identifier of something
else. -/
def isCaptured (g : Graph) (m : Module) (d : Declaration) : TypeExpr → Bool
  | .global name => name ∈ boundNames g m
  | .declared source => g.table.contains source &&
      type (namingOf g m) (.declared source) ∈ d.body.typeParams
  | .external name module => type (namingOf g m) (.external name module) ∈ d.body.typeParams
  | .keyword _ | .array _ | .generic _ _ | .parameter _ | .dictionary _ => false

/-- The types in the bodies of a module that are captured, in order. -/
def captures (g : Graph) (m : Module) : List TypeExpr :=
  (g.declarationsOf m).flatMap fun d =>
    (d.body.types.flatMap TypeExpr.parts).filter (isCaptured g m d)

theorem shows_iff : Shows d r ↔ r ∈ d.body.types.flatMap TypeExpr.parts := by
  simp only [Shows, List.mem_flatMap, TypeExpr.mem_parts_iff]

theorem mem_captures_iff : r ∈ captures g m ↔
    ∃ d ∈ g.declarationsOf m, Shows d r ∧ isCaptured g m d r = true := by
  simp only [captures, List.mem_flatMap (b := r), List.mem_filter, shows_iff]

/-- A declaration is referred to from any module if there is one for the source. -/
theorem exists_refers_iff {path : ModulePath} {source : String} :
    (∃ a, Refers g path (.declared source) a) ↔ g.table.contains source = true := by
  constructor
  · rintro ⟨a, hrefers⟩
    cases hrefers with
    | own hfind _ => exact Table.contains_iff.mpr ⟨_, Table.mem_of_find? hfind⟩
    | other hfind _ => exact Table.contains_iff.mpr ⟨_, Table.mem_of_find? hfind⟩
  · intro hcontains
    obtain ⟨e, he⟩ := Table.exists_find? hcontains
    by_cases hmodule : e.module = path
    · exact ⟨_, .own he hmodule⟩
    · exact ⟨_, .other he hmodule⟩

/-- Nothing is captured exactly when the computed list is empty. -/
theorem noCapture_iff_captures : NoCapture g m ↔ captures g m = [] := by
  rw [List.eq_nil_iff_forall_not_mem]
  constructor
  · intro h r hr
    obtain ⟨d, hd, hshows, hcaptured⟩ := mem_captures_iff.mp hr
    cases r with
    | global name => exact h.globals name ⟨d, hd, hshows⟩ (of_decide_eq_true hcaptured)
    | declared source =>
        obtain ⟨hthere, hparam⟩ := Bool.and_eq_true_iff.mp hcaptured
        obtain ⟨a, hrefers⟩ := exists_refers_iff.mpr hthere
        exact h.references d hd _ a hshows hrefers (of_decide_eq_true hparam)
    | external name module =>
        exact h.references d hd _ _ hshows (.external name module) (of_decide_eq_true hcaptured)
    | _ => exact Bool.false_ne_true hcaptured
  · intro h
    have hfree : ∀ d ∈ g.declarationsOf m, ∀ r, Shows d r → isCaptured g m d r = false := by
      intro d hd r hshows
      rw [← Bool.not_eq_true]
      exact fun hcaptured => h r (mem_captures_iff.mpr ⟨d, hd, hshows, hcaptured⟩)
    refine ⟨?_, ?_⟩
    · rintro name ⟨d, hd, hshows⟩
      exact of_decide_eq_false (hfree d hd _ hshows)
    · intro d hd r a hshows hrefers
      have hno := hfree d hd r hshows
      cases r with
      | declared source =>
          rw [isCaptured, exists_refers_iff.mp ⟨a, hrefers⟩, Bool.true_and] at hno
          exact of_decide_eq_false hno
      | external name module => exact of_decide_eq_false hno
      | _ => nomatch hrefers

instance : Decidable (NoCapture g m) :=
  decidable_of_iff ((captures g m).isEmpty = true) (by rw [List.isEmpty_iff, noCapture_iff_captures])

/-! ## Runs -/

/-- With the targets and converters of a configuration, whatever declaration a module mentions is there
to be referred to. -/
theorem exists_standsFor {c : Configuration} {s : Setup} {discovery : Discovery} {outcome : Outcome}
    (hsetup : c.setup = .ok s) (h : s.run discovery = .ok outcome)
    (hm : m ∈ outcome.graph.modules.modules) {source : String}
    (hmention : Mentions outcome.graph m (.declared source)) :
    ∃ a, StandsFor outcome.graph m.path (.declared source) a := by
  obtain ⟨d, hd, t, ht, hpart⟩ := hmention
  have hdeclared := (((Setup.owned_of_run h).mem_declarationsOf_iff hm).mp hd).1
  obtain ⟨a, hrefers⟩ :=
    exists_refers_iff.mpr (Setup.contains_of_part hsetup h hdeclared ht hpart)
  exact ⟨_, .referent hrefers⟩

/-- In every file of a run each identifier denotes one thing, and the types that stand in its bodies are
printed in it. Nothing is captured exactly when the names in the file are apart. Its identifiers denote
what they stand for exactly when besides that no type parameter captures a type of the surroundings,
and all type variables are declared. -/
theorem scopes_of_run {c : Configuration} {s : Setup} {discovery : Discovery} {outcome : Outcome}
    {f : File} (hsetup : c.setup = .ok s) (h : s.run discovery = .ok outcome)
    (hf : f ∈ files outcome.graph) :
    ∃ m ∈ outcome.graph.modules.modules, f = ⟨m.path.file, moduleText outcome.graph m⟩ ∧
      (∀ r, Mentions outcome.graph m r →
        Inside (type (namingOf outcome.graph m) r) (moduleText outcome.graph m)) ∧
      (∀ source, Mentions outcome.graph m (.declared source) →
        ∃ a, StandsFor outcome.graph m.path (.declared source) a) ∧
      (∀ d ∈ outcome.graph.declarationsOf m, ∀ x, ∃! a, Denotes outcome.graph m d x a) ∧
      (NoCapture outcome.graph m ↔ Apart outcome.graph m) ∧
      (Scoped outcome.graph m ↔ NoCapture outcome.graph m ∧
        ∀ d ∈ outcome.graph.declarationsOf m, ∀ name,
          (Shows d (.global name) → name ∉ d.body.typeParams) ∧
            (Shows d (.parameter name) → name ∈ d.body.typeParams)) := by
  obtain ⟨m, hm, _, heq⟩ := mem_files_iff.mp hf
  have howned := Setup.owned_of_run h
  refine ⟨m, hm, heq, ?_, ?_, ?_, noCapture_iff, scoped_iff howned hm⟩
  · rintro r ⟨d, hd, t, ht, hpart⟩
    exact (inside_type hpart).trans (inside_moduleText hd ht)
  · exact fun _ => exists_standsFor hsetup h hm
  · exact fun d _ x => existsUnique_denotes howned hm d x

/-- Nothing is captured in a file of the shop. -/
theorem scopes_shop : ∃ outcome f, shopSetup.run shopInput = .ok outcome ∧ f ∈ files outcome.graph ∧
    ∃ m ∈ outcome.graph.modules.modules, f = ⟨m.path.file, moduleText outcome.graph m⟩ ∧
      NoCapture outcome.graph m ∧ Apart outcome.graph m := by
  obtain ⟨outcome, hrun, hall⟩ : ∃ outcome, shopSetup.run shopInput = .ok outcome ∧
      (outcome.graph.modules.modules.any fun m => !m.names.isEmpty,
        outcome.graph.modules.modules.all fun m => decide (NoCapture outcome.graph m)) =
          (true, true) := by
    refine exists_outcome_of_view ?_
    rw [Setup.run_eq, Setup.classified_eq_classify (by decide +kernel) (by decide +kernel)]
    decide +kernel
  rw [Prod.mk.injEq] at hall
  obtain ⟨o, ho, hnames⟩ := List.any_eq_true.mp hall.1
  have hf : (⟨o.path.file, moduleText outcome.graph o⟩ : File) ∈ files outcome.graph :=
    mem_files_iff.mpr ⟨o, ho, by simpa using hnames, rfl⟩
  obtain ⟨m, hm, heq, _, _, _, hiff, _⟩ := scopes_of_run (c := shop) rfl hrun hf
  have hnone : NoCapture outcome.graph m := of_decide_eq_true (List.all_eq_true.mp hall.2 m hm)
  exact ⟨outcome, _, hrun, hf, m, hm, heq, hnone, hiff.mp hnone⟩

/-! ## A run that captures -/

/-- Orders have a date of the surroundings and one of the stock, and a box calls its parameter like the
lines of the stock. -/
def boxTypes : List Descriptor :=
  [{ name := "shop.Order", kind := .classType
     fields := [{ name := "placed", type := .named "java.util.Date" [] },
                { name := "label", type := .named "shop.stock.Date" [] }] },
   { name := "shop.Box", kind := .classType, typeParams := ["Line"]
     fields := [{ name := "own", type := .typeVar "Line" },
                { name := "first", type := .named "shop.stock.Line" [] }] },
   { name := "shop.stock.Date", kind := .classType },
   { name := "shop.stock.Line", kind := .classType }]

/-- A date of the surroundings is captured by an import, and the lines of the stock by a type
parameter. -/
theorem captures_box : ∃ outcome, shopSetup.run (.ofTypes boxTypes ["shop"]) = .ok outcome ∧
    ∃ m ∈ outcome.graph.modules.modules, (∃ name, .global name ∈ captures outcome.graph m) ∧
      ∃ source, .declared source ∈ captures outcome.graph m := by
  obtain ⟨outcome, hrun, hcaptures⟩ : ∃ outcome,
      shopSetup.run (.ofTypes boxTypes ["shop"]) = .ok outcome ∧
        (outcome.graph.modules.modules.any fun m =>
          (captures outcome.graph m).any (· matches .global _) &&
            (captures outcome.graph m).any (· matches .declared _)) = true := by
    refine exists_outcome_of_view ?_
    rw [Setup.run_eq, Setup.classified_eq_classify (by decide +kernel) (by decide +kernel)]
    decide +kernel
  obtain ⟨m, hm, hboth⟩ := List.any_eq_true.mp hcaptures
  obtain ⟨hglobal, hdeclared⟩ := Bool.and_eq_true_iff.mp hboth
  -- what kinds of types are captured is computed, and with the kinds come their names
  obtain ⟨t, ht, hkind⟩ := List.any_eq_true.mp hglobal
  obtain ⟨u, hu, hkind'⟩ := List.any_eq_true.mp hdeclared
  refine ⟨outcome, hrun, m, hm, ?_, ?_⟩
  · cases t with
    | global name => exact ⟨name, ht⟩
    | _ => exact absurd hkind Bool.false_ne_true
  · cases u with
    | declared source => exact ⟨source, hu⟩
    | _ => exact absurd hkind' Bool.false_ne_true

/-- Types of the surroundings are not safe from what a module binds, nor references from type
parameters. -/
theorem not_noCapture_box :
    (¬ ∀ (c : Configuration) (s : Setup) (discovery : Discovery) (outcome : Outcome) (m : Module),
      c.setup = .ok s → s.run discovery = .ok outcome → m ∈ outcome.graph.modules.modules →
        ∀ name, Mentions outcome.graph m (.global name) → name ∉ boundNames outcome.graph m) ∧
    ¬ ∀ (c : Configuration) (s : Setup) (discovery : Discovery) (outcome : Outcome) (m : Module),
      c.setup = .ok s → s.run discovery = .ok outcome → m ∈ outcome.graph.modules.modules →
        ∀ d ∈ outcome.graph.declarationsOf m, ∀ r a, Shows d r → Refers outcome.graph m.path r a →
          type (namingOf outcome.graph m) r ∉ d.body.typeParams := by
  obtain ⟨outcome, hrun, m, hm, ⟨name, hname⟩, source, hsource⟩ := captures_box
  constructor
  · intro hall
    obtain ⟨d, hd, hshows, hcaptured⟩ := mem_captures_iff.mp hname
    exact hall shop shopSetup _ outcome m rfl hrun hm name ⟨d, hd, hshows⟩
      (of_decide_eq_true hcaptured)
  · intro hall
    obtain ⟨d, hd, hshows, hcaptured⟩ := mem_captures_iff.mp hsource
    obtain ⟨hthere, hparam⟩ := Bool.and_eq_true_iff.mp hcaptured
    obtain ⟨a, hrefers⟩ := exists_refers_iff.mpr hthere
    exact hall shop shopSetup _ outcome m rfl hrun hm d hd _ a hshows hrefers
      (of_decide_eq_true hparam)

end TypeGraph.Printed
