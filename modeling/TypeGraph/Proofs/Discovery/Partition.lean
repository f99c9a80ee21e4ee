import Mathlib.Data.List.Nodup
import TypeGraph.Discovery.Partition
import TypeGraph.Run

/-!
# What a run knows of its input

A run over some types knows, for each identity, the first type with that identity once types inside
types are taken out and annotations are left out (`firstOf`). Dividing the types by package changes
nothing about it, since an identity lies in a package or not. Lists that agree on these first types
(`SameTypes`) are the same input to a run; several ways to rearrange a list leave them as they are.
-/

namespace TypeGraph

variable {types types' : List Descriptor} {packages packages' : List String} {name : String}
  {d : Descriptor}

/-! ## Indexes -/

/-- An index finds the first type with an identity. -/
theorem Index.find?_ofList (types : List Descriptor) (name : String) :
    (Index.ofList types).find? name = types.find? (·.name == name) := by
  have hfold : ∀ (types : List Descriptor) (start : Index),
      (types.foldl Index.add start).find? name =
        (start.find? name).or (types.find? (·.name == name)) := by
    intro types
    induction types with
    | nil => simp
    | cons d rest ih =>
        intro start
        rw [List.foldl_cons, ih, List.find?_cons]
        by_cases hcontains : start.contains d.name = true
        · rw [Index.add, if_pos hcontains]
          by_cases hname : d.name = name
          · -- the type comes too late: one with its identity is found before
            have hsome : (start.find? name).isSome = true := by
              rw [Index.find?, List.find?_isSome]
              simpa [Index.contains, hname] using hcontains
            obtain ⟨e, he⟩ := Option.isSome_iff_exists.mp hsome
            rw [he]
            rfl
          · rw [beq_eq_false_iff_ne.mpr hname]
        · rw [Index.add, if_neg hcontains]
          by_cases hname : d.name = name
          · have hnone : start.find? name = none := by
              rw [Index.find?, List.find?_eq_none]
              simpa [Index.contains, hname] using hcontains
            rw [hnone]
            have hnone' : start.types.find? (·.name == name) = none := hnone
            simp [Index.find?, List.find?_append, hnone', hname]
          · have hskip : ([d].find? fun e => e.name == name) = none := by simp [hname]
            rw [beq_eq_false_iff_ne.mpr hname, Index.find?, List.find?_append, hskip, Option.or_none]
            rfl
  exact hfold types {}

/-- Of candidates with the same identity the first one is known. -/
theorem Setup.find?_index_of_candidate {discovery : Discovery}
    (h : discovery.candidates.find? (·.name == name) = some d) :
    (Setup.index discovery).find? name = some d := by
  rw [Setup.index, Index.find?_ofList, List.find?_append, h]
  rfl

/-! ## First types -/

/-- The first type with an identity among some types and those inside them, without annotations. -/
def firstOf (types : List Descriptor) (name : String) : Option Descriptor :=
  ((flatten types).filter (·.kind != .annotationType)).find? (·.name == name)

/-- Dividing types by a property of their names keeps the first type of each name. -/
theorem find?_divided (inside : String → Bool) (xs : List Descriptor) (name : String) :
    ((xs.filter fun d => inside d.name) ++ xs.filter fun d => !inside d.name).find? (·.name == name) =
      xs.find? (·.name == name) := by
  -- types of one name are all on the same side
  have hkeep : ∀ p : String → Bool, p name = true →
      (xs.filter fun d => p d.name).find? (·.name == name) = xs.find? (·.name == name) := by
    intro p hp
    rw [List.find?_filter]
    congr 1
    funext d
    by_cases hname : d.name = name
    · simp [hname, hp]
    · simp [hname]
  have hdrop : ∀ p : String → Bool, p name = false →
      (xs.filter fun d => p d.name).find? (·.name == name) = none := by
    intro p hp
    rw [List.find?_eq_none]
    intro d hd hname
    obtain rfl : d.name = name := by simpa using hname
    have hin : p d.name = true := (List.mem_filter.mp hd).2
    exact Bool.false_ne_true (hp.symm.trans hin)
  rw [List.find?_append]
  cases hinside : inside name with
  | true => rw [hkeep inside hinside, hdrop (fun x => !inside x) (by simp [hinside]), Option.or_none]
  | false => rw [hdrop inside hinside, hkeep (fun x => !inside x) (by simp [hinside]), Option.none_or]

/-- What a run knows are the first types. -/
theorem find?_index (types : List Descriptor) (packages : List String) (name : String) :
    (Setup.index (.ofTypes types packages)).find? name = firstOf types name := by
  rw [Setup.index, Index.find?_ofList]
  exact find?_divided (inPackages · packages) _ name

theorem inPackages_congr (h : ∀ p, p ∈ packages ↔ p ∈ packages') (name : String) :
    inPackages name packages = inPackages name packages' := by
  rw [Bool.eq_iff_iff, inPackages, inPackages, List.any_eq_true, List.any_eq_true]
  constructor
  · rintro ⟨p, hp, hin⟩
    exact ⟨p, (h p).mp hp, hin⟩
  · rintro ⟨p, hp, hin⟩
    exact ⟨p, (h p).mpr hp, hin⟩

/-- The candidates of a run have the names of the first types in its packages. -/
theorem exists_candidate_iff :
    (∃ d ∈ (Discovery.ofTypes types packages).candidates, d.name = name) ↔
      inPackages name packages = true ∧ ∃ d, firstOf types name = some d := by
  simp only [Discovery.ofTypes, List.mem_filter]
  constructor
  · rintro ⟨d, ⟨⟨hd, hkind⟩, hin⟩, rfl⟩
    refine ⟨hin, Option.isSome_iff_exists.mp ?_⟩
    rw [firstOf, List.find?_isSome]
    exact ⟨d, List.mem_filter.mpr ⟨hd, hkind⟩, by simp⟩
  · rintro ⟨hin, d, hfirst⟩
    obtain ⟨hd, hkind⟩ := List.mem_filter.mp (List.mem_of_find?_eq_some hfirst)
    have hname : d.name = name := by simpa using List.find?_some hfirst
    exact ⟨d, ⟨⟨hd, hkind⟩, hname ▸ hin⟩, hname⟩

/-! ## The same input -/

/-- Two lists of types have the same first type for every identity. -/
def SameTypes (types types' : List Descriptor) : Prop := ∀ name, firstOf types name = firstOf types' name

/-- A type comes before the types inside it, and these before the next type. -/
theorem flatten_cons (d : Descriptor) (rest : List Descriptor) :
    flatten (d :: rest) = d.bare :: flatten (d.nested ++ rest) := by
  rw [flatten]

theorem flatten_append (xs ys : List Descriptor) : flatten (xs ++ ys) = flatten xs ++ flatten ys := by
  fun_induction flatten xs with
  | case1 => rfl
  | case2 d rest _ ih =>
      rw [List.cons_append, flatten_cons, ← List.append_assoc, ih, List.cons_append]

/-- The same types in another order are the same types with those inside them in another order. -/
theorem flatten_perm {xs ys : List Descriptor} (h : xs.Perm ys) : (flatten xs).Perm (flatten ys) := by
  induction h with
  | nil => exact .refl _
  | cons d _ ih =>
      rw [flatten_cons, flatten_cons, flatten_append, flatten_append]
      exact (ih.append_left _).cons _
  | swap d e rest =>
      -- each type changes places together with those inside it
      have hsplit : ∀ a b : Descriptor, flatten (a :: b :: rest) =
          (a.bare :: flatten a.nested) ++ (b.bare :: flatten b.nested) ++ flatten rest := by
        intro a b
        rw [flatten_cons, flatten_append, flatten_cons, flatten_append]
        simp
      rw [hsplit, hsplit]
      exact List.perm_append_comm.append_right _
  | trans _ _ ih ih' => exact ih.trans ih'

/-- The order of types with distinct identities does not matter, nor which of them are inside which. -/
theorem sameTypes_of_perm (hperm : (flatten types).Perm (flatten types'))
    (hn : ((flatten types).map (·.name)).Nodup) : SameTypes types types' := by
  intro name
  -- told of both directions at once: distinct names leave only one type that can be found
  have hsome : ∀ {xs ys : List Descriptor}, xs.Perm ys →
      ((flatten types).map (·.name)).Perm (xs.map (·.name)) →
      ∀ {d : Descriptor}, (xs.filter (·.kind != .annotationType)).find? (·.name == name) = some d →
        (ys.filter (·.kind != .annotationType)).find? (·.name == name) = some d := by
    intro xs ys hxy hnames d hd
    have hmem : d ∈ ys.filter (·.kind != .annotationType) :=
      (hxy.filter _).subset (List.mem_of_find?_eq_some hd)
    have hname : d.name = name := by simpa using List.find?_some hd
    have hnodup : (ys.map (·.name)).Nodup := (hnames.trans (hxy.map _)).nodup_iff.mp hn
    cases hfind : (ys.filter (·.kind != .annotationType)).find? (·.name == name) with
    | none =>
        have habsent := List.find?_eq_none.mp hfind d hmem
        simp [hname] at habsent
    | some e =>
        have hename : e.name = name := by simpa using List.find?_some hfind
        have he := (List.mem_filter.mp (List.mem_of_find?_eq_some hfind)).1
        rw [List.inj_on_of_nodup_map hnodup he (List.mem_filter.mp hmem).1 (hename.trans hname.symm)]
  cases hfirst : firstOf types name with
  | some d => exact (hsome hperm (.refl _) hfirst).symm
  | none =>
      cases hother : firstOf types' name with
      | none => rfl
      | some d =>
          have hback := hsome hperm.symm (hperm.map _) hother
          rw [← firstOf, hfirst] at hback
          exact absurd hback (by simp)

/-- The types inside a type may as well stand behind it. -/
theorem sameTypes_unnest (before after : List Descriptor) (d : Descriptor) :
    SameTypes (before ++ d :: after) (before ++ d.bare :: (d.nested ++ after)) := by
  intro name
  rw [firstOf, firstOf, flatten_append, flatten_append, flatten_cons, flatten_cons]
  rfl

/-- Types whose identities came before do not matter, nor do annotations. -/
theorem sameTypes_append (later : List Descriptor)
    (h : ∀ d ∈ flatten later, d.kind ≠ .annotationType → ∃ e, firstOf types d.name = some e) :
    SameTypes types (types ++ later) := by
  intro name
  rw [firstOf, firstOf, flatten_append, List.filter_append, List.find?_append]
  cases hfirst : ((flatten types).filter (·.kind != .annotationType)).find? (·.name == name) with
  | some d => rfl
  | none =>
      rw [Option.none_or, eq_comm, List.find?_eq_none]
      intro d hd hname
      obtain ⟨hmem, hkind⟩ := List.mem_filter.mp hd
      obtain ⟨e, he⟩ := h d hmem (by simpa using hkind)
      obtain rfl : d.name = name := by simpa using hname
      rw [firstOf, hfirst] at he
      exact absurd he (by simp)

end TypeGraph
