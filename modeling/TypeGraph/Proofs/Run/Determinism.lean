import TypeGraph.Proofs.Run.Locality

/-!
# Runs do not depend on the order of their input

A run reads its index only by looking up identities. So two indexes that find the same types
(`Index.Agrees`) are interchangeable in every step, as two that agree on what is looked up
(`Index.AgreesOn`). Which candidates there are is a set of names, and classification makes sets of names
(`Setup.run_of_agrees`). With the first types of the input equal, the whole outcome is equal; so types can
be given in another order, apart from the type they are inside, or once more.
-/

namespace TypeGraph

/-- Two indexes find the same types. -/
def Index.Agrees (i j : Index) : Prop := ∀ x, i.find? x = j.find? x

variable {i j : Index} {custom : CustomTypes}

namespace Index.Agrees

theorem everywhere (h : i.Agrees j) : i.AgreesOn j fun _ => True :=
  ⟨fun x _ => h x, fun _ _ _ _ _ _ _ _ => trivial⟩

theorem explore (h : i.Agrees j) (cl : Classification) :
    cl.explore ⟨i, custom⟩ = cl.explore ⟨j, custom⟩ :=
  (h.everywhere.explore custom fun _ _ => trivial).1

theorem restMentions (h : i.Agrees j) (cl : Classification) :
    cl.restMentions ⟨i, custom⟩ = cl.restMentions ⟨j, custom⟩ :=
  h.everywhere.restMentions custom fun _ _ => trivial

end Index.Agrees

namespace Setup

theorem convertAll_congr (s : Setup) (h : i.Agrees j) (cl : Classification) :
    s.convertAll i cl = s.convertAll j cl :=
  convertAll_congr_on h.everywhere fun _ _ => trivial

/-- A classification by filters is told by the names of the types, when these are known. -/
theorem classify_congr (s : Setup) (h : i.Agrees j) {types types' : List Descriptor}
    (hnames : ∀ name, (∃ d ∈ types, d.name = name) ↔ ∃ d ∈ types', d.name = name) :
    s.classify (types.filterMap fun d => i.find? d.name) =
      s.classify (types'.filterMap fun d => j.find? d.name) := by
  have hmem : ∀ e, e ∈ types.filterMap (fun d => i.find? d.name) ↔
      e ∈ types'.filterMap (fun d => j.find? d.name) := by
    intro e
    have hall : ∀ (k : Index) (ds : List Descriptor), e ∈ ds.filterMap (fun d => k.find? d.name) ↔
        (∃ d ∈ ds, d.name = e.name) ∧ k.find? e.name = some e := by
      intro k ds
      rw [List.mem_filterMap]
      constructor
      · rintro ⟨d, hd, hfind⟩
        have hname : e.name = d.name := Index.name_of_find? hfind
        exact ⟨⟨d, hd, hname.symm⟩, hname ▸ hfind⟩
      · rintro ⟨⟨d, hd, hname⟩, hfind⟩
        exact ⟨d, hd, hname ▸ hfind⟩
    rw [hall, hall, hnames, h]
  have hnamed : ∀ condition, Classification.named (types.filterMap fun d => i.find? d.name) condition =
      Classification.named (types'.filterMap fun d => j.find? d.name) condition := by
    intro condition
    refine Names.ext_mem ?_
    intro name
    rw [Classification.mem_named_iff, Classification.mem_named_iff]
    exact exists_congr fun e => and_congr_left fun _ => hmem e
  simp only [classify, Classification.ofTypes, hnamed]

/-- All that a run knows of a discovery is what its index finds, the names of its candidates and its
failures. -/
theorem run_of_agrees (s : Setup) {discovery discovery' : Discovery}
    (h : (index discovery).Agrees (index discovery'))
    (hnames : ∀ name, (∃ d ∈ discovery.candidates, d.name = name) ↔
      ∃ d ∈ discovery'.candidates, d.name = name)
    (hfailures : discovery.failures = discovery'.failures) : s.run discovery = s.run discovery' := by
  have hclassified : s.classified discovery = s.classified discovery' := by
    simp only [classified, classification, s.classify_congr h hnames, h.explore]
  have hwarnings : ∀ cl : Classification,
      s.earlyWarnings discovery (index discovery) cl =
        s.earlyWarnings discovery' (index discovery') cl := by
    intro cl
    simp only [earlyWarnings, h.restMentions, hfailures]
  rw [run_eq, run_eq]
  simp only [hclassified, hwarnings, s.convertAll_congr h]

end Setup

/-! ## Lists of types -/

namespace SameTypes

variable {types types' : List Descriptor} {packages packages' : List String}

theorem agrees (h : SameTypes types types') (packages packages' : List String) :
    (Setup.index (.ofTypes types packages)).Agrees (Setup.index (.ofTypes types' packages')) := by
  intro x
  rw [find?_index, find?_index]
  exact h x

/-- Candidates come in another order and number, but their names are the same. -/
theorem candidates (h : SameTypes types types') (hpackages : ∀ p, p ∈ packages ↔ p ∈ packages')
    (name : String) :
    (∃ d ∈ (Discovery.ofTypes types packages).candidates, d.name = name) ↔
      ∃ d ∈ (Discovery.ofTypes types' packages').candidates, d.name = name := by
  rw [exists_candidate_iff, exists_candidate_iff, inPackages_congr hpackages, h name]

end SameTypes

/-- A run gives the same answer on every two lists of types with the same first type for every identity,
and on every two lists with the same packages: the same error, or the same modules and declarations in
the same order, from which the same files are printed. -/
theorem run_congr {s : Setup} {types types' : List Descriptor} {packages packages' : List String}
    (htypes : SameTypes types types') (hpackages : ∀ p, p ∈ packages ↔ p ∈ packages') :
    s.run (.ofTypes types packages) = s.run (.ofTypes types' packages') :=
  s.run_of_agrees (htypes.agrees packages packages') (htypes.candidates hpackages) rfl

theorem run_congr_shop : shopSetup.run (.ofTypes shopTypes ["shop"]) =
    shopSetup.run (.ofTypes shopTypes.reverse ["shop", "shop"]) := by
  refine run_congr (sameTypes_of_perm (flatten_perm shopTypes.reverse_perm.symm) ?_) (by simp)
  decide +kernel

/-! ## Ways to give the same types -/

namespace Setup

variable (s : Setup) (packages : List String)

/-- Types with distinct identities can be given in any order, inside one another or not. -/
theorem run_perm {types types' : List Descriptor} (h : (flatten types).Perm (flatten types'))
    (hn : ((flatten types).map (·.name)).Nodup) :
    s.run (.ofTypes types packages) = s.run (.ofTypes types' packages) :=
  have hsame := sameTypes_of_perm h hn
  s.run_of_agrees (hsame.agrees packages packages) (hsame.candidates fun _ => .rfl) rfl

/-- The types inside a type can be given behind it instead. -/
theorem run_unnest (before after : List Descriptor) (d : Descriptor) :
    s.run (.ofTypes (before ++ d :: after) packages) =
      s.run (.ofTypes (before ++ d.bare :: (d.nested ++ after)) packages) :=
  have hsame := sameTypes_unnest before after d
  s.run_of_agrees (hsame.agrees packages packages) (hsame.candidates fun _ => .rfl) rfl

/-- Types whose identities came before can be left out, and annotations as well. -/
theorem run_append {types later : List Descriptor}
    (h : ∀ d ∈ flatten later, d.kind ≠ .annotationType → ∃ e, firstOf types d.name = some e) :
    s.run (.ofTypes (types ++ later) packages) = s.run (.ofTypes types packages) :=
  have hsame := sameTypes_append later h
  (s.run_of_agrees (hsame.agrees packages packages) (hsame.candidates fun _ => .rfl) rfl).symm

end Setup

end TypeGraph
