import TypeGraph.Source.Descriptor

/-!
# Index of source types

Every type that a run knows, found by identity. Of types with the same identity the first one counts.
-/

namespace TypeGraph

/-- A stronger condition that one member fails leaves fewer members. -/
theorem length_filter_lt {α : Type} {p q : α → Bool} {xs : List α} {x : α}
    (himp : ∀ y, q y = true → p y = true) (hx : x ∈ xs) (hp : p x = true) (hq : q x = false) :
    (xs.filter q).length < (xs.filter p).length := by
  have hle : ∀ ys : List α, (ys.filter q).length ≤ (ys.filter p).length := by
    intro ys
    induction ys with
    | nil => simp
    | cons z zs ih =>
      rw [List.filter_cons, List.filter_cons]
      split
      · rename_i hz
        simp [himp z hz, ih]
      · split
        · simp only [List.length_cons]
          omega
        · exact ih
  induction xs with
  | nil => simp at hx
  | cons y ys ih =>
    rcases List.mem_cons.mp hx with rfl | hmem
    · have := hle ys
      simp [hp, hq]
      omega
    · have := ih hmem
      rw [List.filter_cons, List.filter_cons]
      split
      · rename_i hy
        simp [himp y hy, this]
      · split
        · simp only [List.length_cons]
          omega
        · exact this

/-- The known types in the order of their first mention, one for each identity. -/
structure Index where
  types : List Descriptor := []

namespace Index

/-- The type with an identity. -/
def find? (index : Index) (identity : String) : Option Descriptor :=
  index.types.find? (·.name == identity)

/-- Whether an identity is known. -/
def contains (index : Index) (identity : String) : Bool :=
  index.types.any (·.name == identity)

/-- The number of known types. -/
def size (index : Index) : Nat := index.types.length

/-- Adds a type unless its identity is known. -/
def add (index : Index) (d : Descriptor) : Index :=
  if index.contains d.name then index else ⟨index.types ++ [d]⟩

/-- The index of some types. -/
def ofList (types : List Descriptor) : Index := types.foldl add {}

theorem name_of_find? {index : Index} {identity : String} {d : Descriptor}
    (h : index.find? identity = some d) : d.name = identity := by
  simpa using List.find?_some h

theorem mem_of_find? {index : Index} {identity : String} {d : Descriptor}
    (h : index.find? identity = some d) : d ∈ index.types :=
  List.mem_of_find?_eq_some h

end Index

end TypeGraph
