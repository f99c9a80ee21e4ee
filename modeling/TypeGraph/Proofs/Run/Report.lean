import TypeGraph.Classification.Report
import TypeGraph.Proofs.Discovery.Partition
import TypeGraph.Proofs.Run.Complete
import TypeGraph.Proofs.Run.Roles

/-!
# Reports and runs

A report has one entry for each identity among the candidates, and the entry speaks of the type that a
run takes for that identity: sorting keeps candidates of the same identity in their order, so the first
of them stays first. The roles in the entry are those of all candidates with the identity, while a run
looks at the first one only. The two agree exactly when the other candidates have no role that the first
one lacks (`ReportEntry.Describes`).
-/

namespace TypeGraph

variable {types : List Descriptor} {name : String} {d x : Descriptor}

/-! ## Candidates in order -/

namespace Report

theorem mem_of_mem_dropRepeated (h : d ∈ dropRepeated types) : d ∈ types := by
  induction types with
  | nil => exact h
  | cons first rest ih =>
      rw [dropRepeated] at h
      split at h
      · exact List.mem_cons.mpr (.inl (List.mem_singleton.mp h))
      · rename_i next others heq
        rw [heq] at ih
        split at h
        · rcases List.mem_cons.mp h with rfl | hothers
          · exact List.mem_cons_self
          · exact List.mem_cons_of_mem _ (ih (List.mem_cons_of_mem _ hothers))
        · rcases List.mem_cons.mp h with rfl | hrest
          · exact List.mem_cons_self
          · exact List.mem_cons_of_mem _ (ih hrest)

/-- The first type with a name stays. -/
theorem find?_dropRepeated (types : List Descriptor) (name : String) :
    (dropRepeated types).find? (·.name == name) = types.find? (·.name == name) := by
  induction types with
  | nil => rfl
  | cons first rest ih =>
      rw [dropRepeated, List.find?_cons, ← ih]
      split
      · rename_i heq
        rw [heq]
        rfl
      · rename_i next others heq
        rw [heq]
        split
        · rename_i hsame
          rw [List.find?_cons, List.find?_cons, hsame]
          cases first.name == name <;> rfl
        · rw [List.find?_cons]

/-- Of ascending types a strictly ascending list is left. -/
theorem ascending_dropRepeated (h : types.Pairwise fun a b => a.name ≤ b.name) :
    (dropRepeated types).Pairwise fun a b => a.name < b.name := by
  induction types with
  | nil => exact .nil
  | cons first rest ih =>
      obtain ⟨hfirst, hrest⟩ := List.pairwise_cons.mp h
      have hascending := ih hrest
      rw [dropRepeated]
      split
      · exact List.pairwise_singleton _ _
      · rename_i next others heq
        rw [heq] at hascending
        obtain ⟨hnext, hothers⟩ := List.pairwise_cons.mp hascending
        split
        · rename_i hsame
          exact List.pairwise_cons.mpr ⟨fun b hb => hsame ▸ hnext b hb, hothers⟩
        · rename_i hne
          have hmem : next ∈ rest := mem_of_mem_dropRepeated (heq ▸ List.mem_cons_self)
          have hlt : first.name < next.name :=
            lt_of_not_lt_of_ne (String.not_lt.mpr (hfirst next hmem)) hne
          refine List.pairwise_cons.mpr ⟨fun b hb => ?_, hascending⟩
          rcases List.mem_cons.mp hb with rfl | hb
          · exact hlt
          · exact String.lt_trans hlt (hnext b hb)

theorem byName_trans (a b c : Descriptor) (hab : decide (a.name ≤ b.name) = true)
    (hbc : decide (b.name ≤ c.name) = true) : decide (a.name ≤ c.name) = true :=
  decide_eq_true (String.le_trans (of_decide_eq_true hab) (of_decide_eq_true hbc))

theorem byName_total (a b : Descriptor) :
    (decide (a.name ≤ b.name) || decide (b.name ≤ a.name)) = true := by
  simpa using String.le_total a.name b.name

/-- Sorting by name leaves types of one name in their order. -/
theorem find?_mergeSort (types : List Descriptor) (name : String) :
    (types.mergeSort fun a b => a.name ≤ b.name).find? (·.name == name) =
      types.find? (·.name == name) := by
  have hperm := List.mergeSort_perm types fun a b => decide (a.name ≤ b.name)
  have hsame : (types.filter (·.name == name)).Pairwise fun a b => decide (a.name ≤ b.name) = true := by
    refine List.pairwise_of_forall_mem_list fun a ha b hb => ?_
    have hname : a.name = b.name := by
      rw [beq_iff_eq.mp (List.mem_filter.mp ha).2, beq_iff_eq.mp (List.mem_filter.mp hb).2]
    simp [hname]
  -- those of the name are found in the sorted list in the same order, and there are no others
  have hsub := (List.sublist_mergeSort byName_trans byName_total hsame List.filter_sublist).filter
    (·.name == name)
  rw [List.filter_filter] at hsub
  simp only [Bool.and_self] at hsub
  have heq := hsub.eq_of_length (hperm.filter _).length_eq.symm
  rw [← List.head?_filter, ← List.head?_filter, heq]

theorem ascending_sortedCandidates (types : List Descriptor) :
    (sortedCandidates types).Pairwise fun a b => a.name < b.name := by
  have hsorted := List.pairwise_mergeSort byName_trans byName_total types
  exact ascending_dropRepeated (hsorted.imp of_decide_eq_true)

/-- The sorted candidates are the first ones of each name. -/
theorem mem_sortedCandidates_iff :
    d ∈ sortedCandidates types ↔ types.find? (·.name == d.name) = some d := by
  have hfind : (sortedCandidates types).find? (·.name == d.name) =
      types.find? (·.name == d.name) := by
    rw [sortedCandidates, find?_dropRepeated, find?_mergeSort]
  rw [← hfind]
  refine ⟨fun hmem => ?_, List.mem_of_find?_eq_some⟩
  have hsome : ((sortedCandidates types).find? (·.name == d.name)).isSome = true := by
    rw [List.find?_isSome]
    exact ⟨d, hmem, beq_self_eq_true _⟩
  obtain ⟨e, he⟩ := Option.isSome_iff_exists.mp hsome
  have hname : e.name = d.name := by simpa using List.find?_some he
  have hnodup : ((sortedCandidates types).map (·.name)).Nodup :=
    List.pairwise_map.mpr ((ascending_sortedCandidates types).imp fun hlt =>
      String.ne_of_lt hlt)
  rw [he, List.inj_on_of_nodup_map hnodup (List.mem_of_find?_eq_some he) hmem hname]

end Report

/-! ## Roles by the filters -/

namespace Setup

variable {s : Setup} {discovery : Discovery} {role : Role}

/-- Whether a type has a role by the filters. -/
def hasRole (s : Setup) : Role → Descriptor → Bool
  | .enum, d => d.isEnum
  | .model, d => !d.isEnum && s.modelFilter.selects d
  | .rest, d => !d.isEnum && s.restFilter.selects d

/-- The roles that a type has by the filters. -/
def rolesByFilter (s : Setup) (d : Descriptor) : List Role :=
  [Role.enum, .model, .rest].filter fun role => s.hasRole role d

theorem mem_rolesByFilter : role ∈ s.rolesByFilter d ↔ s.hasRole role d = true := by
  cases role <;> simp [rolesByFilter]

theorem mem_rolesOf_classify : role ∈ (s.classify types).rolesOf name ↔
    ∃ d ∈ types, d.name = name ∧ role ∈ s.rolesByFilter d := by
  have hofRole : name ∈ (s.classify types).ofRole role ↔
      ∃ d ∈ types, s.hasRole role d = true ∧ d.name = name := by
    cases role <;> exact Classification.mem_named_iff
  have hrolesOf : role ∈ (s.classify types).rolesOf name ↔ name ∈ (s.classify types).ofRole role := by
    cases role <;> simp [Classification.rolesOf]
  simp only [hrolesOf, hofRole, mem_rolesByFilter, and_comm]

/-- Roles are listed in a fixed order, so that the same roles are the same list. -/
theorem rolesOf_eq_rolesByFilter_iff {c : Classification} :
    c.rolesOf name = s.rolesByFilter d ↔ ∀ role, role ∈ c.rolesOf name ↔ role ∈ s.rolesByFilter d := by
  refine ⟨fun h _ => h ▸ Iff.rfl, fun h => List.filter_congr fun role _ => ?_⟩
  have hrolesOf : role ∈ c.rolesOf name ↔ name ∈ c.ofRole role := by
    cases role <;> simp [Classification.rolesOf]
  rw [Bool.eq_iff_iff, decide_eq_true_iff, ← hrolesOf, h, mem_rolesByFilter]

/-- A run gives a candidate the roles of the first one with its identity. -/
theorem rolesOf_filtered (hx : x ∈ discovery.candidates)
    (hfind : (Setup.index discovery).find? x.name = some d) :
    (s.filtered discovery).rolesOf x.name = s.rolesByFilter d := by
  refine rolesOf_eq_rolesByFilter_iff.mpr fun role => mem_rolesOf_classify.trans ⟨?_, fun hrole => ?_⟩
  · rintro ⟨e, he, hname, hrole⟩
    obtain ⟨y, _, hy⟩ := List.mem_filterMap.mp he
    rw [← Index.name_of_find? hy, hname, hfind] at hy
    exact Option.some.inj hy ▸ hrole
  · exact ⟨d, List.mem_filterMap.mpr ⟨x, hx, hfind⟩, Index.name_of_find? hfind, hrole⟩

end Setup

/-! ## What a report says -/

variable {s : Setup} {discovery : Discovery} {e : ReportEntry}

/-- What the entry of a report says of a type. -/
structure ReportEntry.Describes (s : Setup) (discovery : Discovery) (e : ReportEntry)
    (d : Descriptor) : Prop where
  /-- It is the type that a run takes for the identity. -/
  known : (Setup.index discovery).find? e.name = some d
  reasons : e.reasons = s.reasons d
  /-- The roles are those of all candidates with the identity. -/
  roles : ∀ role, role ∈ e.roles ↔
    ∃ x ∈ discovery.candidates, x.name = e.name ∧ role ∈ s.rolesByFilter x
  /-- They are the ones that a run begins with, unless another candidate has more. -/
  agrees : e.roles = (s.filtered discovery).rolesOf e.name ↔
    ∀ x ∈ discovery.candidates, x.name = e.name → s.rolesByFilter x ⊆ s.rolesByFilter d

theorem Report.describes_of_mem (h : e ∈ (Report.of s discovery).entries) :
    ∃ d, e.Describes s discovery d := by
  obtain ⟨d, hd, rfl⟩ := List.mem_map.mp h
  have hfirst := mem_sortedCandidates_iff.mp hd
  have hmem := List.mem_of_find?_eq_some hfirst
  have hknown := Setup.find?_index_of_candidate hfirst
  refine ⟨d, hknown, rfl, fun role => Setup.mem_rolesOf_classify, ?_⟩
  show (s.classify discovery.candidates).rolesOf d.name = (s.filtered discovery).rolesOf d.name ↔ _
  rw [Setup.rolesOf_filtered hmem hknown, Setup.rolesOf_eq_rolesByFilter_iff]
  constructor
  · intro hsame x hx hname role hrole
    exact (hsame role).mp (Setup.mem_rolesOf_classify.mpr ⟨x, hx, hname, hrole⟩)
  · intro hno role
    refine ⟨fun hrole => ?_, fun hrole => Setup.mem_rolesOf_classify.mpr ⟨d, hmem, rfl, hrole⟩⟩
    obtain ⟨x, hx, hname, hrole⟩ := Setup.mem_rolesOf_classify.mp hrole
    exact hno x hx hname hrole

theorem Report.exists_entry_iff (s : Setup) (discovery : Discovery) (name : String) :
    (∃ e ∈ (Report.of s discovery).entries, e.name = name) ↔
      ∃ d ∈ discovery.candidates, d.name = name := by
  constructor
  · rintro ⟨e, he, rfl⟩
    obtain ⟨d, hd, rfl⟩ := List.mem_map.mp he
    exact ⟨d, List.mem_of_find?_eq_some (mem_sortedCandidates_iff.mp hd), rfl⟩
  · rintro ⟨d, hd, rfl⟩
    have hsome : (discovery.candidates.find? (·.name == d.name)).isSome = true := by
      rw [List.find?_isSome]
      exact ⟨d, hd, beq_self_eq_true _⟩
    obtain ⟨first, hfirst⟩ := Option.isSome_iff_exists.mp hsome
    have hname : first.name = d.name := by simpa using List.find?_some hfirst
    exact ⟨_, List.mem_map.mpr ⟨first, mem_sortedCandidates_iff.mpr (hname ▸ hfirst), rfl⟩, hname⟩

/-- A report has one entry for each identity among the candidates, in ascending order. An entry explains
the type that a run takes for the identity, and it lists the roles that a run begins with exactly when no
other candidate with the identity has a role by the filters which that type lacks. -/
theorem report_describes (s : Setup) (discovery : Discovery) :
    ((Report.of s discovery).entries.map (·.name)).Pairwise (· < ·) ∧
      (∀ name, (∃ e ∈ (Report.of s discovery).entries, e.name = name) ↔
        ∃ d ∈ discovery.candidates, d.name = name) ∧
      ∀ e ∈ (Report.of s discovery).entries, ∃ d, e.Describes s discovery d := by
  refine ⟨?_, Report.exists_entry_iff s discovery, fun _ => Report.describes_of_mem⟩
  have hnames : (Report.of s discovery).entries.map (·.name) =
      (Report.sortedCandidates discovery.candidates).map (·.name) := by
    simp [Report.of, Function.comp_def]
  rw [hnames, List.pairwise_map]
  exact Report.ascending_sortedCandidates _

/-- The order of the shop is reported as the model that a run makes of it. -/
theorem report_shop : ∃ e ∈ (Report.of shopSetup shopInput).entries, ∃ d,
    (Setup.index shopInput).find? "shop.Order" = some d ∧ e.reasons = shopSetup.reasons d ∧
      e.roles = (shopSetup.filtered shopInput).rolesOf "shop.Order" ∧
      (shopSetup.filtered shopInput).rolesOf "shop.Order" = [.model] := by
  obtain ⟨_, hentries, hdescribes⟩ := report_describes shopSetup shopInput
  obtain ⟨e, he, hname⟩ := (hentries "shop.Order").mpr (by decide +kernel)
  obtain ⟨d, hknown, hreasons, _, hagrees⟩ := hdescribes e he
  rw [hname] at hknown hagrees
  have hfirst : ((Setup.index shopInput).find? "shop.Order").map shopSetup.rolesByFilter =
      some [.model] := by
    decide +kernel
  have hall : ∀ x ∈ shopInput.candidates, x.name = "shop.Order" →
      shopSetup.rolesByFilter x = [.model] := by
    decide +kernel
  have hd : shopSetup.rolesByFilter d = [.model] := by simpa [hknown] using hfirst
  refine ⟨e, he, d, hknown, hreasons, hagrees.mpr fun x hx hxname => ?_, by decide +kernel⟩
  rw [hall x hx hxname, hd]
  exact fun _ => id

/-- A class and an enum with the same identity. -/
def twoOrders : Discovery :=
  .ofTypes [{ name := "shop.Order", kind := .classType },
    { name := "shop.Order", kind := .enum, constants := ["OPEN"] }] ["shop"]

/-- Of a class and an enum with the same identity the report says that they are a model and an enum,
while a run makes a model of them. -/
theorem not_report_twoOrders : ¬ ∀ (c : Configuration) (s : Setup) (discovery : Discovery)
    (e : ReportEntry), c.setup = .ok s → e ∈ (Report.of s discovery).entries →
      e.roles = (s.filtered discovery).rolesOf e.name ∧
        ∃ d, (Setup.index discovery).find? e.name = some d ∧ e.reasons = s.reasons d := by
  intro hall
  obtain ⟨e, he, hname⟩ := (Report.exists_entry_iff { shopSetup with modelFilter := .acceptAll }
    twoOrders "shop.Order").mpr (by decide +kernel)
  have hroles := (hall { shop with modelFilter := .acceptAll } _ twoOrders e rfl he).1
  obtain ⟨d, _, _, hunion, _⟩ := Report.describes_of_mem he
  rw [hname] at hroles hunion
  have hreported : Role.enum ∈ e.roles := (hunion .enum).mpr (by decide +kernel)
  rw [hroles] at hreported
  revert hreported
  decide +kernel

end TypeGraph
