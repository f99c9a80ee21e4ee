import TypeGraph.Classification.Worklists
import TypeGraph.Proofs.Classification.Exploration

/-!
# Turns do not matter

An exploration that gives everybody a turn, first come, first served, ends with the same classification as
the closures (`Worklists.explore_eq`). A closure depends only on which names are asked for
(`Index.closure_congr`), so names may be asked for in any order; what remains to be said is what one turn
does: it takes one name from those that are asked for, and asks for what that name leads to.
-/

namespace TypeGraph

/-! ## Closures do not depend on the order -/

namespace Index

variable {index : Index} {admits : Descriptor → Bool} {next : Descriptor → List String}
  {seen : Names} {name : String} {names names' rest : List String} {d : Descriptor}

theorem Closed.of_mem_iff {S : Set String} (h : index.Closed admits next names seen S)
    (hsame : ∀ y, y ∈ names ↔ y ∈ names') : index.Closed admits next names' seen S :=
  ⟨h.before, fun y hy => h.asked y ((hsame y).mpr hy), h.led⟩

/-- A closure is told by which names are asked for. -/
theorem closure_congr (h : ∀ y, y ∈ names ↔ y ∈ names') :
    index.closure admits next names seen = index.closure admits next names' seen := by
  refine Names.ext_mem fun x => ⟨fun hx => ?_, fun hx => ?_⟩
  · exact (closure_isLeast.1.of_mem_iff fun y => (h y).symm).closure_subset hx
  · exact (closure_isLeast.1.of_mem_iff h).closure_subset hx

/-- A name that was seen, or that is not admitted, need not be asked for. -/
theorem closure_cons_of_not (h : name ∈ seen ∨ ¬ index.Admitted admits name) :
    index.closure admits next (name :: rest) seen = index.closure admits next rest seen := by
  rw [closure]
  split
  · rfl
  · rename_i hnew
    split
    · rfl
    · rename_i d hfind
      rw [if_neg fun hadmits => (h.resolve_left hnew) ⟨d, hfind, hadmits⟩]

/-- A new name that is admitted is taken up, and what it leads to is asked for. -/
theorem closure_cons_of_admitted (hnew : name ∉ seen) (hfind : index.find? name = some d)
    (hadmits : admits d = true) : index.closure admits next (name :: rest) seen =
      index.closure admits next (next d ++ rest) (seen.insert name) := by
  rw [closure, dif_neg hnew]
  split
  · rename_i hnone
    exact absurd (hnone.symm.trans hfind) (by simp)
  · rename_i e hfind'
    obtain rfl : e = d := Option.some.inj (hfind'.symm.trans hfind)
    rw [if_pos hadmits]

theorem admitted_iff (hfind : index.find? name = some d) :
    index.Admitted admits name ↔ admits d = true := by
  simp [Admitted, hfind]

end Index

/-- Classifications with the same members are equal. -/
theorem Classification.eq_of_mem_iff {c c' : Classification} (henums : ∀ x, x ∈ c.enums ↔ x ∈ c'.enums)
    (hmodels : ∀ x, x ∈ c.models ↔ x ∈ c'.models) (hrests : ∀ x, x ∈ c.rests ↔ x ∈ c'.rests) :
    c = c' := by
  obtain ⟨enums, models, rests⟩ := c
  obtain ⟨enums', models', rests'⟩ := c'
  obtain rfl : enums = enums' := Names.ext_mem henums
  obtain rfl : models = models' := Names.ext_mem hmodels
  obtain rfl : rests = rests' := Names.ext_mem hrests
  rfl

namespace Worklists

variable {s : Surroundings} {w w' w'' : Worklists} {c c' : Classification} {t : TypeRef}
  {d rest : Descriptor} {names : List String} {x y name : String}

/-! ## Types with endpoints -/

/-- A supertype joins the types with endpoints when it is not among them and is admitted. -/
theorem joins_iff (hfind : s.index.find? name = some d) :
    (s.custom.isMapped name || w.classification.contains name) = false ∧
        (d.isEnum || d.kind == .annotationType) = false ↔
      name ∉ w.classification.rests ∧ w.classification.admitsBase s d = true := by
  rw [Classification.admitsBase_iff hfind, Surroundings.usable_iff hfind]
  simp only [Classification.contains, Bool.or_eq_false_iff, decide_eq_false_iff_not,
    beq_eq_false_iff_ne]
  constructor
  · rintro ⟨⟨hmapped, ⟨henums, hmodels⟩, hrests⟩, henum, hkind⟩
    exact ⟨hrests, ⟨hmapped, hkind⟩, henum, henums, hmodels⟩
  · rintro ⟨hrests, ⟨hmapped, hkind⟩, henum, henums, hmodels⟩
    exact ⟨⟨hmapped, ⟨henums, hmodels⟩, hrests⟩, henum, hkind⟩

/-- What a supertype does in the turn of a type with endpoints. -/
theorem meet_cases (s : Surroundings) (w : Worklists) (t : TypeRef) :
    (t.identities = [] ∧ w.meet s t = w) ∨
    ∃ base arguments, t.identities = base :: arguments ∧
      (((base ∈ w.classification.rests ∨ ¬ s.index.Admitted (w.classification.admitsBase s) base) ∧
        w.meet s t = { w with queue := w.queue ++ arguments }) ∨
      ∃ d, base ∉ w.classification.rests ∧ s.index.find? base = some d ∧
        w.classification.admitsBase s d = true ∧ w.meet s t =
          { classification := { w.classification with rests := w.classification.rests.insert base }
            bases := w.bases ++ [d], queue := w.queue ++ arguments }) := by
  cases hidentities : t.identities with
  | nil => exact Or.inl ⟨rfl, by simp [meet, hidentities]⟩
  | cons base arguments =>
      refine Or.inr ⟨base, arguments, rfl, ?_⟩
      cases hfind : s.index.find? base with
      | none =>
          refine Or.inl ⟨Or.inr ?_, by simp [meet, hidentities, hfind]⟩
          rintro ⟨d, hd, _⟩
          exact absurd (hfind.symm.trans hd) (by simp)
      | some d =>
          by_cases hjoins : base ∉ w.classification.rests ∧ w.classification.admitsBase s d = true
          · obtain ⟨hfree, hkind⟩ := (joins_iff hfind).mpr hjoins
            exact Or.inr ⟨d, hjoins.1, rfl, hjoins.2, by simp [meet, hidentities, hfind, hfree, hkind]⟩
          · left
            refine ⟨?_, ?_⟩
            · rw [Index.admitted_iff hfind]
              exact not_and_or.mp hjoins |>.imp_left not_not.mp
            · have hnot := mt (joins_iff hfind).mp hjoins
              simp only [meet, hidentities, hfind]
              split
              · rfl
              · split
                · rfl
                · simp_all

/-- An exploration has gone on: some types have joined those with endpoints, and wait behind the others,
and some names were mentioned. -/
structure Extends (s : Surroundings) (w w' : Worklists) (joined : List Descriptor)
    (mentioned : List String) : Prop where
  enums : w'.classification.enums = w.classification.enums
  models : w'.classification.models = w.classification.models
  bases : w'.bases = w.bases ++ joined
  queue : w'.queue = w.queue ++ mentioned
  known : ∀ d ∈ joined, s.index.find? d.name = some d
  fresh : ∀ d ∈ joined, d.name ∉ w.classification.rests
  rests : ∀ x, x ∈ w'.classification.rests ↔
    x ∈ w.classification.rests ∨ ∃ d ∈ joined, d.name = x

theorem Extends.refl (s : Surroundings) (w : Worklists) : Extends s w w [] [] :=
  ⟨rfl, rfl, by simp, by simp, by simp, by simp, by simp⟩

theorem Extends.trans {joined joined' : List Descriptor} {mentioned mentioned' : List String}
    (h : Extends s w w' joined mentioned) (h' : Extends s w' w'' joined' mentioned') :
    Extends s w w'' (joined ++ joined') (mentioned ++ mentioned') where
  enums := h'.enums.trans h.enums
  models := h'.models.trans h.models
  bases := by rw [h'.bases, h.bases, List.append_assoc]
  queue := by rw [h'.queue, h.queue, List.append_assoc]
  known := List.forall_mem_append.mpr ⟨h.known, h'.known⟩
  fresh := List.forall_mem_append.mpr
    ⟨h.fresh, fun d hd hold => h'.fresh d hd ((h.rests d.name).mpr (Or.inl hold))⟩
  rests := by
    intro x
    rw [h'.rests, h.rests, or_assoc]
    simp only [List.mem_append, or_and_right, exists_or]

theorem extends_meet (s : Surroundings) (w : Worklists) (t : TypeRef) :
    ∃ joined, Extends s w (w.meet s t) joined t.identities.tail := by
  rcases meet_cases s w t with ⟨hnone, heq⟩ | ⟨base, arguments, hidentities, ⟨_, heq⟩ | ⟨d, hnew, hfind, _, heq⟩⟩
  · rw [heq, hnone]
    exact ⟨[], .refl s w⟩
  · rw [heq, hidentities]
    exact ⟨[], rfl, rfl, by simp, rfl, by simp, by simp, by simp⟩
  · have hname : d.name = base := Index.name_of_find? hfind
    rw [heq, hidentities]
    refine ⟨[d], rfl, rfl, rfl, rfl, by simp [hname, hfind], by simp [hname, hnew], ?_⟩
    intro x
    simp [hname, or_comm, eq_comm]

theorem extends_foldl_meet (s : Surroundings) (supertypes : List TypeRef) (w : Worklists) :
    ∃ joined, Extends s w (supertypes.foldl (meet s) w) joined
      (supertypes.flatMap fun t => t.identities.tail) := by
  induction supertypes generalizing w with
  | nil => exact ⟨[], .refl s w⟩
  | cons t others ih =>
      obtain ⟨joined, h⟩ := extends_meet s w t
      obtain ⟨joined', h'⟩ := ih (w.meet s t)
      exact ⟨joined ++ joined', h.trans h'⟩

/-- In its turn a type with endpoints mentions its seeds. -/
theorem extends_visit (s : Surroundings) (w : Worklists) (rest : Descriptor) :
    ∃ joined, Extends s w (w.visit s rest) joined (Classification.seeds rest) := by
  obtain ⟨joined, h⟩ := extends_foldl_meet s rest.supertypes
    { w with queue := w.queue ++ rest.endpointReferences }
  have hqueue : Extends s w { w with queue := w.queue ++ rest.endpointReferences } []
      rest.endpointReferences := ⟨rfl, rfl, by simp, rfl, by simp, by simp, by simp⟩
  exact ⟨joined, hqueue.trans h⟩

/-! ### What will have joined -/

/-- The types with endpoints that there will be, when some names are still to be looked at and some types
wait. -/
def expected (s : Surroundings) (w : Worklists) (names : List String) : Names :=
  s.index.closure (w.classification.admitsBase s) Descriptor.baseNames
    (names ++ w.bases.flatMap Descriptor.baseNames) w.classification.rests

/-- A supertype changes nothing of what is expected, once its first identity is looked at. -/
theorem expected_meet (s : Surroundings) (w : Worklists) (t : TypeRef) (names : List String) :
    (w.meet s t).expected s names = w.expected s (t.identities.head?.toList ++ names) := by
  rcases meet_cases s w t with ⟨hnone, heq⟩ | ⟨base, arguments, hidentities, ⟨hskip, heq⟩ | ⟨d, hnew, hfind, hadmits, heq⟩⟩
  · rw [heq, hnone]
    rfl
  · rw [heq, hidentities]
    exact (Index.closure_cons_of_not hskip).symm
  · rw [heq, hidentities]
    have hsame : ∀ y, y ∈ names ++ (w.bases ++ [d]).flatMap Descriptor.baseNames ↔
        y ∈ d.baseNames ++ (names ++ w.bases.flatMap Descriptor.baseNames) := by
      intro y
      simp only [List.flatMap_append, List.flatMap_singleton, List.mem_append]
      exact or_assoc.symm.trans or_comm
    exact (Index.closure_congr hsame).trans (Index.closure_cons_of_admitted hnew hfind hadmits).symm

theorem expected_foldl_meet (s : Surroundings) (supertypes : List TypeRef) (w : Worklists) :
    (supertypes.foldl (meet s) w).expected s [] =
      w.expected s (supertypes.filterMap fun t => t.identities.head?) := by
  induction supertypes generalizing w with
  | nil => rfl
  | cons t others ih =>
      rw [List.foldl_cons, ih, expected_meet]
      cases hhead : t.identities.head? <;> simp [hhead]

/-- The turn of a type with endpoints changes nothing of what is expected. -/
theorem expected_visit (s : Surroundings) (w : Worklists) (rest : Descriptor) :
    (w.visit s rest).expected s [] = w.expected s rest.baseNames :=
  expected_foldl_meet s rest.supertypes { w with queue := w.queue ++ rest.endpointReferences }

/-- When every type with endpoints has had its turn, those that were expected have joined, and what is
mentioned are the seeds of those that waited and of those that joined. -/
structure Visited (s : Surroundings) (w w' : Worklists) : Prop where
  classification : w'.classification = { w.classification with rests := w.expected s [] }
  queue : ∀ y, y ∈ w'.queue ↔ y ∈ w.queue ∨ (∃ d ∈ w.bases, y ∈ Classification.seeds d) ∨
    ∃ x ∈ w.expected s [], x ∉ w.classification.rests ∧
      ∃ d, s.index.find? x = some d ∧ y ∈ Classification.seeds d

/-- Who has joined is no longer counted among those that will. -/
theorem Extends.exists_joined_iff {joined : List Descriptor} {mentioned : List String} {final : Names}
    (h : Extends s w w' joined mentioned) (hfinal : ∀ x ∈ w'.classification.rests, x ∈ final) :
    ((∃ d ∈ joined, y ∈ Classification.seeds d) ∨ ∃ x ∈ final, x ∉ w'.classification.rests ∧
        ∃ d, s.index.find? x = some d ∧ y ∈ Classification.seeds d) ↔
      ∃ x ∈ final, x ∉ w.classification.rests ∧
        ∃ d, s.index.find? x = some d ∧ y ∈ Classification.seeds d := by
  constructor
  · rintro (⟨d, hd, hy⟩ | ⟨x, hx, hnot, hseed⟩)
    · exact ⟨d.name, hfinal _ ((h.rests _).mpr (Or.inr ⟨d, hd, rfl⟩)), h.fresh d hd, d, h.known d hd, hy⟩
    · exact ⟨x, hx, fun hold => hnot ((h.rests x).mpr (Or.inl hold)), hseed⟩
  · rintro ⟨x, hx, hnot, d, hfind, hy⟩
    by_cases hjoined : ∃ e ∈ joined, e.name = x
    · obtain ⟨e, he, rfl⟩ := hjoined
      obtain rfl : d = e := Option.some.inj (hfind.symm.trans (h.known e he))
      exact Or.inl ⟨d, he, hy⟩
    · exact Or.inr ⟨x, hx, fun hmem => ((h.rests x).mp hmem).elim hnot hjoined, d, hfind, hy⟩

theorem visited_visitAll (s : Surroundings) (w : Worklists) : Visited s w (w.visitAll s) := by
  fun_induction visitAll s w with
  | case1 w hbases =>
      have hexpected : w.expected s [] = w.classification.rests := by
        simp [expected, hbases, Index.closure]
      refine ⟨by rw [hexpected], fun y => ?_⟩
      rw [hexpected, hbases]
      constructor
      · exact Or.inl
      · rintro (hold | ⟨_, hnone, _⟩ | ⟨_, hx, hnot, _⟩)
        · exact hold
        · exact absurd hnone List.not_mem_nil
        · exact absurd hx hnot
  | case2 w rest others hbases _ ih =>
      obtain ⟨joined, h⟩ := extends_visit s { w with bases := others } rest
      have hexpected : (visit s { w with bases := others } rest).expected s [] = w.expected s [] := by
        rw [expected_visit]
        simp [expected, hbases]
      have hfinal : ∀ x ∈ (visit s { w with bases := others } rest).classification.rests,
          x ∈ w.expected s [] := fun x hx => hexpected ▸ Index.mem_closure_of_seen hx
      obtain ⟨hclassification, hqueue⟩ := ih
      rw [hexpected] at hclassification hqueue
      refine ⟨?_, fun y => ?_⟩
      · simp only [hclassification, h.enums, h.models]
      · rw [hqueue, h.queue, h.bases, ← h.exists_joined_iff hfinal, hbases]
        simp only [List.mem_append, List.mem_cons, or_and_right, exists_or, exists_eq_left, or_assoc]

/-! ## Names that are mentioned -/

theorem contains_grown_iff {found : Names} (hknown : ∀ x ∈ found, ∃ d, s.index.find? x = some d) :
    (c.grown s found).contains x = true ↔ x ∈ found ∨ c.contains x = true := by
  rw [Classification.contains_iff, Classification.contains_iff, Classification.mem_grown_enums,
    Classification.mem_grown_models]
  constructor
  · rintro ((henum | ⟨hfound, _⟩) | (hmodel | ⟨hfound, _⟩) | hrest)
    · exact Or.inr (Or.inl henum)
    · exact Or.inl hfound
    · exact Or.inr (Or.inr (Or.inl hmodel))
    · exact Or.inl hfound
    · exact Or.inr (Or.inr (Or.inr hrest))
  · rintro (hfound | henum | hmodel | hrest)
    · obtain ⟨d, hfind⟩ := hknown x hfound
      cases henum : d.isEnum with
      | true => exact Or.inl (Or.inr ⟨hfound, d, hfind, henum⟩)
      | false => exact Or.inr (Or.inl (Or.inr ⟨hfound, d, hfind, henum⟩))
    · exact Or.inl (Or.inl henum)
    · exact Or.inr (Or.inl (Or.inl hmodel))
    · exact Or.inr (Or.inr hrest)

/-- A name that is found is added to the enums or to the models. -/
theorem grown_insert {found : Names} (hfind : s.index.find? name = some d) :
    c.grown s (found.insert name) =
      if d.isEnum then { c.grown s found with enums := (c.grown s found).enums.insert name }
      else { c.grown s found with models := (c.grown s found).models.insert name } := by
  have hkind : ∀ x kind, (x ∈ found.insert name ∧ ∃ e, s.index.find? x = some e ∧ e.isEnum = kind) ↔
      (x = name ∧ d.isEnum = kind) ∨ (x ∈ found ∧ ∃ e, s.index.find? x = some e ∧ e.isEnum = kind) := by
    intro x kind
    rw [Names.mem_insert, or_and_right]
    refine or_congr_left (and_congr_right ?_)
    rintro rfl
    simp [hfind]
  have henums : ∀ x, x ∈ (c.grown s (found.insert name)).enums ↔
      (x = name ∧ d.isEnum = true) ∨ x ∈ (c.grown s found).enums := by
    intro x
    rw [Classification.mem_grown_enums, Classification.mem_grown_enums, hkind, or_left_comm]
  have hmodels : ∀ x, x ∈ (c.grown s (found.insert name)).models ↔
      (x = name ∧ d.isEnum = false) ∨ x ∈ (c.grown s found).models := by
    intro x
    rw [Classification.mem_grown_models, Classification.mem_grown_models, hkind, or_left_comm]
  split
  · rename_i henum
    refine Classification.eq_of_mem_iff (fun x => ?_) (fun x => ?_) fun x => Iff.rfl
    · rw [henums, and_iff_left henum, Names.mem_insert]
    · simp [hmodels, henum]
  · rename_i henum
    refine Classification.eq_of_mem_iff (fun x => ?_) (fun x => ?_) fun x => Iff.rfl
    · simp [henums, henum]
    · rw [hmodels, and_iff_left (Bool.eq_false_iff.mpr henum), Names.mem_insert]

/-- A name that is not passed over in its turn was not found before, and is admitted. -/
theorem admits_of_turn {found : Names} (hknown : ∀ x ∈ found, ∃ d, s.index.find? x = some d)
    (hfree : ¬ (s.custom.isMapped name || (c.grown s found).contains name) = true)
    (hfind : s.index.find? name = some d) (hkind : ¬ (d.kind == .annotationType) = true)
    (h : d.isEnum = true ∨ d.hasEndpoints = false) :
    name ∉ found ∧ c.admitsMention s d = true := by
  rw [Bool.or_eq_true, contains_grown_iff hknown, not_or, not_or] at hfree
  obtain ⟨hmapped, hnew, hcontains⟩ := hfree
  refine ⟨hnew, (Classification.admitsMention_iff hfind).mpr ⟨?_, Bool.eq_false_iff.mpr hcontains, h⟩⟩
  exact (Surroundings.usable_iff hfind).mpr ⟨Bool.eq_false_iff.mpr hmapped, by simpa using hkind⟩

/-- Giving names their turn takes up what the closure takes up. -/
theorem takeUp_grown (s : Surroundings) (c : Classification) (queue : List String) (found : Names)
    (hknown : ∀ x ∈ found, ∃ d, s.index.find? x = some d) : takeUp s (c.grown s found) queue =
      c.grown s (s.index.closure (c.admitsMention s) Classification.mentions queue found) := by
  have hinsert : ∀ {name d}, s.index.find? name = some d → ∀ found : Names,
      (∀ x ∈ found, ∃ d, s.index.find? x = some d) →
        ∀ x ∈ found.insert name, ∃ d, s.index.find? x = some d := by
    intro name d hfind found hknown x hx
    rcases Names.mem_insert.mp hx with rfl | hold
    · exact ⟨d, hfind⟩
    · exact hknown x hold
  generalize hgrown : c.grown s found = c'
  fun_induction takeUp s c' queue generalizing found with
  | case1 c' => rw [Index.closure, hgrown]
  | case2 c' name rest hfree ih =>
      rw [ih found hknown hgrown, Index.closure_cons_of_not]
      rw [← hgrown, Bool.or_eq_true, contains_grown_iff hknown] at hfree
      by_cases hfound : name ∈ found
      · exact Or.inl hfound
      · right
        rintro ⟨d, hfind, hadmits⟩
        obtain ⟨husable, hcontains, _⟩ := (Classification.admitsMention_iff hfind).mp hadmits
        have hmapped := ((Surroundings.usable_iff hfind).mp husable).1
        simp [hmapped, hcontains, hfound] at hfree
  | case3 c' name rest hfree hnone ih =>
      rw [ih found hknown hgrown, Index.closure_cons_of_not]
      right
      rintro ⟨d, hfind, _⟩
      exact absurd (hnone.symm.trans hfind) (by simp)
  | case4 c' name rest hfree d hfind hkind ih =>
      rw [ih found hknown hgrown, Index.closure_cons_of_not]
      rw [Index.admitted_iff hfind, Classification.admitsMention_iff hfind]
      exact Or.inr fun hadmits => hadmits.1.kind (by simpa using hkind)
  | case5 c' name rest hfree d hfind hkind henum ih =>
      subst hgrown
      obtain ⟨hnew, hadmits⟩ := admits_of_turn hknown hfree hfind hkind (Or.inl henum)
      have hnone : Classification.mentions d = [] := by simp [Classification.mentions, henum]
      rw [ih (found.insert name) (hinsert hfind found hknown) (by rw [grown_insert hfind, if_pos henum]),
        Index.closure_cons_of_admitted hnew hfind hadmits, hnone, List.nil_append]
  | case6 c' name rest hfree d hfind hkind henum hendpoints ih =>
      rw [ih found hknown hgrown, Index.closure_cons_of_not]
      rw [Index.admitted_iff hfind, Classification.admitsMention_iff hfind]
      exact Or.inr fun hadmits => by simp [henum, hendpoints] at hadmits
  | case7 c' name rest hfree d hfind hkind henum hendpoints ih =>
      subst hgrown
      obtain ⟨hnew, hadmits⟩ :=
        admits_of_turn hknown hfree hfind hkind (Or.inr (by simpa using hendpoints))
      have hsame : ∀ y, y ∈ Classification.mentions d ++ rest ↔ y ∈ rest ++ d.modelReferences := by
        intro y
        simp [Classification.mentions, henum, or_comm]
      rw [ih (found.insert name) (hinsert hfind found hknown) (by rw [grown_insert hfind, if_neg henum]),
        Index.closure_cons_of_admitted hnew hfind hadmits, Index.closure_congr hsame]

/-- What is mentioned when all types with endpoints have had their turn are the seeds of all of them. -/
theorem mem_queue_iff (s : Surroundings) (c : Classification) :
    y ∈ (visitAll s { classification := c, bases := s.known c.rests }).queue ↔
      y ∈ (s.known (c.restClosure s)).flatMap Classification.seeds := by
  have hfinal : expected s { classification := c, bases := s.known c.rests } [] = c.restClosure s := rfl
  rw [(visited_visitAll s _).queue, hfinal, Classification.mem_flatMap_known_iff]
  constructor
  · rintro (hnone | ⟨d, hd, hy⟩ | ⟨x, hx, _, hseed⟩)
    · exact absurd hnone List.not_mem_nil
    · obtain ⟨hfind, hmem⟩ := known_of_mem hd
      exact ⟨d.name, Index.mem_closure_of_seen hmem, d, hfind, hy⟩
    · exact ⟨x, hx, hseed⟩
  · rintro ⟨x, hx, d, hfind, hy⟩
    by_cases hgiven : x ∈ c.rests
    · exact Or.inr (Or.inl ⟨d, List.mem_filterMap.mpr ⟨x, hgiven, hfind⟩, hy⟩)
    · exact Or.inr (Or.inr ⟨x, hx, hgiven, d, hfind, hy⟩)

/-- Turn by turn, exploration ends with the classification that the closures tell. -/
theorem explore_eq (s : Surroundings) (c : Classification) : explore s c = c.explore s := by
  have hbases : (visitAll s { classification := c, bases := s.known c.rests }).classification =
      (c.withBases s).grown s ∅ := (visited_visitAll s _).classification
  have hfound : s.index.closure ((c.withBases s).admitsMention s) Classification.mentions
      (visitAll s { classification := c, bases := s.known c.rests }).queue ∅ = c.found s :=
    Index.closure_congr fun _ => mem_queue_iff s c
  rw [explore, hbases, takeUp_grown s _ _ ∅ (by simp), hfound, Classification.explore_eq_grown]

end Worklists

end TypeGraph
