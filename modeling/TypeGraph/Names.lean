/-!
# Sets and maps by name

Finite sets of names and finite maps from names to values, kept in ascending order without
repetition. The order is part of the type, so two sets with the same members are equal
(`Names.ext_mem`), and whatever is printed from a set or map does not depend on how it was built.
-/

namespace TypeGraph

/-! ## Order of names -/

theorem lt_of_not_lt_of_ne {a b : String} (h : ¬ a < b) (hne : a ≠ b) : b < a := by
  rcases Decidable.em (b < a) with hba | hba
  · exact hba
  · exact absurd (String.le_antisymm (String.not_lt.mp hba) (String.not_lt.mp h)) hne

/-- Ascending lists with the same members are equal. -/
theorem ascending_ext {xs ys : List String} (hx : xs.Pairwise (· < ·)) (hy : ys.Pairwise (· < ·))
    (h : ∀ a, a ∈ xs ↔ a ∈ ys) : xs = ys := by
  induction xs generalizing ys with
  | nil =>
    cases ys with
    | nil => rfl
    | cons y ys => exact absurd ((h y).mpr (by simp)) (by simp)
  | cons x xs ih =>
    cases ys with
    | nil => exact absurd ((h x).mp (by simp)) (by simp)
    | cons y ys =>
      rw [List.pairwise_cons] at hx hy
      have hxy : x = y := by
        rcases List.mem_cons.mp ((h x).mp (by simp)) with e | hxmem
        · exact e
        · rcases List.mem_cons.mp ((h y).mpr (by simp)) with e | hymem
          · exact e.symm
          · exact absurd (String.lt_trans (hx.1 y hymem) (hy.1 x hxmem)) (String.lt_irrefl _)
      subst hxy
      congr 1
      refine ih hx.2 hy.2 fun a => ?_
      constructor
      · intro ha
        rcases List.mem_cons.mp ((h a).mp (by simp [ha])) with e | hmem
        · exact absurd (e ▸ hx.1 a ha) (String.lt_irrefl _)
        · exact hmem
      · intro ha
        rcases List.mem_cons.mp ((h a).mpr (by simp [ha])) with e | hmem
        · exact absurd (e ▸ hy.1 a ha) (String.lt_irrefl _)
        · exact hmem

/-! ## Sets of names -/

/-- A finite set of names. -/
structure Names where
  toList : List String
  ascending : toList.Pairwise (· < ·) := by simp

namespace Names

instance : EmptyCollection Names := ⟨{ toList := [] }⟩

instance : Inhabited Names := ⟨∅⟩

instance : Membership String Names := ⟨fun s a => a ∈ s.toList⟩

instance (a : String) (s : Names) : Decidable (a ∈ s) :=
  inferInstanceAs (Decidable (a ∈ s.toList))

theorem mem_def {a : String} {s : Names} : a ∈ s ↔ a ∈ s.toList := Iff.rfl

@[simp] theorem not_mem_empty (a : String) : a ∉ (∅ : Names) := List.not_mem_nil

/-- Sets with the same members are equal. -/
theorem ext_mem {s t : Names} (h : ∀ a, a ∈ s ↔ a ∈ t) : s = t := by
  cases s with
  | mk xs hx =>
    cases t with
    | mk ys hy =>
      congr
      exact ascending_ext hx hy h

/-- Whether a set has no members. -/
def isEmpty (s : Names) : Bool := s.toList.isEmpty

/-- The number of members. -/
def size (s : Names) : Nat := s.toList.length

/-- Puts a name at its place in an ascending list. -/
def insertList (a : String) : List String → List String
  | [] => [a]
  | b :: rest =>
    if a < b then a :: b :: rest else if a = b then b :: rest else b :: insertList a rest

theorem mem_insertList {a b : String} {xs : List String} :
    b ∈ insertList a xs ↔ b = a ∨ b ∈ xs := by
  induction xs with
  | nil => simp [insertList]
  | cons x xs ih =>
    rw [insertList]
    split
    · simp
    · split
      · rename_i _ heq
        subst heq
        simp
      · simp only [List.mem_cons, ih]
        constructor
        · rintro (h | h | h) <;> simp [h]
        · rintro (h | h | h) <;> simp [h]

theorem ascending_insertList {a : String} {xs : List String} (h : xs.Pairwise (· < ·)) :
    (insertList a xs).Pairwise (· < ·) := by
  induction xs with
  | nil => simp [insertList]
  | cons x xs ih =>
    rw [List.pairwise_cons] at h
    rw [insertList]
    split
    · rename_i hlt
      rw [List.pairwise_cons, List.pairwise_cons]
      refine ⟨fun b hb => ?_, h⟩
      rcases List.mem_cons.mp hb with e | hmem
      · exact e ▸ hlt
      · exact String.lt_trans hlt (h.1 b hmem)
    · split
      · rw [List.pairwise_cons]
        exact h
      · rename_i hnlt hne
        rw [List.pairwise_cons]
        refine ⟨fun b hb => ?_, ih h.2⟩
        rcases mem_insertList.mp hb with e | hmem
        · exact e ▸ lt_of_not_lt_of_ne hnlt hne
        · exact h.1 b hmem

/-- Adds a name. -/
def insert (a : String) (s : Names) : Names :=
  ⟨insertList a s.toList, ascending_insertList s.ascending⟩

@[simp] theorem mem_insert {a b : String} {s : Names} : b ∈ s.insert a ↔ b = a ∨ b ∈ s :=
  mem_insertList

/-- The set of the names in a list. -/
def ofList (names : List String) : Names := names.foldl (fun s a => s.insert a) ∅

theorem mem_foldl_insert {a : String} (names : List String) (s : Names) :
    a ∈ names.foldl (fun s b => s.insert b) s ↔ a ∈ names ∨ a ∈ s := by
  induction names generalizing s with
  | nil => simp
  | cons b rest ih =>
    rw [List.foldl_cons, ih, mem_insert, List.mem_cons]
    constructor
    · rintro (h | h | h) <;> simp [h]
    · rintro ((h | h) | h) <;> simp [h]

@[simp] theorem mem_ofList {a : String} {names : List String} : a ∈ ofList names ↔ a ∈ names := by
  rw [ofList, mem_foldl_insert]
  simp

end Names

/-! ## Maps from names -/

/-- A finite map from names. -/
structure NameMap (α : Type) where
  entries : List (String × α)
  ascending : (entries.map (·.1)).Pairwise (· < ·) := by simp

namespace NameMap

variable {α β : Type}

instance : EmptyCollection (NameMap α) := ⟨{ entries := [] }⟩

instance : Inhabited (NameMap α) := ⟨∅⟩

/-- The names that have a value, in ascending order. -/
def keys (m : NameMap α) : List String := m.entries.map (·.1)

/-- The values in the order of their names. -/
def values (m : NameMap α) : List α := m.entries.map (·.2)

/-- The number of entries. -/
def size (m : NameMap α) : Nat := m.entries.length

/-- Whether there is no entry. -/
def isEmpty (m : NameMap α) : Bool := m.entries.isEmpty

/-- The value of a name. -/
def get? (m : NameMap α) (name : String) : Option α :=
  (m.entries.find? (·.1 == name)).map (·.2)

/-- Whether a name has a value. -/
def contains (m : NameMap α) (name : String) : Bool := m.entries.any (·.1 == name)

/-- Puts an entry at its place; an entry with the same name is replaced. -/
def insertList (name : String) (value : α) : List (String × α) → List (String × α)
  | [] => [(name, value)]
  | (k, v) :: rest =>
    if name < k then (name, value) :: (k, v) :: rest
    else if name = k then (name, value) :: rest
    else (k, v) :: insertList name value rest

theorem keys_insertList (name : String) (value : α) (entries : List (String × α)) :
    (insertList name value entries).map (·.1) = Names.insertList name (entries.map (·.1)) := by
  induction entries with
  | nil => rfl
  | cons entry rest ih =>
    obtain ⟨k, v⟩ := entry
    simp only [insertList, Names.insertList, List.map_cons]
    split
    · simp
    · split
      · rename_i _ heq
        simp [heq]
      · simp [ih]

/-- Sets the value of a name. -/
def insert (m : NameMap α) (name : String) (value : α) : NameMap α :=
  ⟨insertList name value m.entries, by
    rw [keys_insertList]
    exact Names.ascending_insertList m.ascending⟩

/-- The map with some entries; of entries with the same name the last one counts. -/
def ofList (entries : List (String × α)) : NameMap α :=
  entries.foldl (fun m (k, v) => m.insert k v) ∅

/-- The map with every value changed. -/
def map (f : α → β) (m : NameMap α) : NameMap β :=
  ⟨m.entries.map fun (k, v) => (k, f v), by
    have : (m.entries.map fun (k, v) => (k, f v)).map (·.1) = m.entries.map (·.1) := by
      simp [Function.comp_def]
    rw [this]
    exact m.ascending⟩

end NameMap

end TypeGraph
