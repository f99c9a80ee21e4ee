import Mathlib.Data.List.Lex
import TypeGraph.Proofs.Discovery.Partition

/-!
# Types inside types, in order

Types can be declared inside types to any depth. A discovery takes all of them out in pre-order: a type
comes before the types inside it, and these come before the next type beside it. Told by recursion this is
`Descriptor.preorderAll`, told by a stack whose top is its end it is `Descriptor.unstack`, and both are
`flatten`. What the order means is told without any walk by places: `ListsInOrder` says that the listed
types stand at ascending places, one for each place, and there is only one such list
(`ListsInOrder.unique`). Candidates and references are lists of this kind, so nothing is lost, doubled or
moved when types are divided by package, and types inside annotations stay.
-/

namespace TypeGraph

namespace Descriptor

variable {d e : Descriptor} {types : List Descriptor} {n : Nat} {place : List Nat}

/-! ## By recursion -/

mutual

/-- A type and all types inside it, outer ones first, each without the types inside it. -/
def preorder (d : Descriptor) : List Descriptor :=
  match d with
  | ⟨_, _, _, _, _, _, _, _, _, nested⟩ => d.bare :: preorderAll nested

/-- Some types and all types inside them, one after the other. -/
def preorderAll : List Descriptor → List Descriptor
  | [] => []
  | d :: rest => d.preorder ++ preorderAll rest

end

theorem preorder_eq (d : Descriptor) : d.preorder = d.bare :: preorderAll d.nested := by
  cases d
  simp only [preorder]

theorem preorderAll_append (xs ys : List Descriptor) :
    preorderAll (xs ++ ys) = preorderAll xs ++ preorderAll ys := by
  induction xs with
  | nil => rfl
  | cons d rest ih =>
      rw [List.cons_append, preorderAll, preorderAll, ih, List.append_assoc]

/-- Putting the types inside a type in front of those still to come leads to the recursive order. -/
theorem flatten_eq_preorderAll (types : List Descriptor) : flatten types = preorderAll types := by
  fun_induction flatten types with
  | case1 => rfl
  | case2 d rest _ ih => rw [ih, preorderAll_append, preorderAll, preorder_eq, List.cons_append]

/-! ## By a stack -/

theorem countAll_reverse (types : List Descriptor) : countAll types.reverse = countAll types := by
  induction types with
  | nil => rfl
  | cons d rest ih =>
      rw [List.reverse_cons, countAll_append, ih]
      simp only [countAll]
      omega

/-- The types inside the type on top are fewer than that type and they together. -/
theorem countAll_unstack_lt {stack : List Descriptor} (h : stack.getLast? = some d) :
    countAll (stack.dropLast ++ d.nested.reverse) < countAll stack := by
  have hstack : stack.dropLast ++ [d] = stack :=
    List.dropLast_append_getLast? d (Option.mem_def.mpr h)
  have hcount : countAll stack = countAll stack.dropLast + (1 + countAll d.nested) := by
    conv_lhs => rw [← hstack, countAll_append]
    simp only [countAll, count_eq d]
    omega
  rw [hcount, countAll_append, countAll_reverse]
  omega

/-- Empties a stack whose top is its end: the type on top is put out without the types inside it, and
these go on the stack in reverse, so that the first of them is on top. -/
def unstack (stack out : List Descriptor) : List Descriptor :=
  match h : stack.getLast? with
  | none => out
  | some d =>
    have : countAll (stack.dropLast ++ d.nested.reverse) < countAll stack := countAll_unstack_lt h
    unstack (stack.dropLast ++ d.nested.reverse) (out ++ [d.bare])
termination_by countAll stack

/-- What is on the stack comes out in pre-order from its top down, behind what is out already. -/
theorem unstack_eq (stack out : List Descriptor) :
    unstack stack out = out ++ preorderAll stack.reverse := by
  fun_induction unstack stack out with
  | case1 stack out h =>
      rw [List.getLast?_eq_none_iff.mp h]
      exact (List.append_nil out).symm
  | case2 stack out d h _ ih =>
      have hstack : stack = stack.dropLast ++ [d] :=
        (List.dropLast_append_getLast? d (Option.mem_def.mpr h)).symm
      have htop : stack.reverse = d :: stack.dropLast.reverse := by
        conv_lhs => rw [hstack]
        simp
      rw [ih, htop, List.reverse_append, List.reverse_reverse, preorderAll_append, preorderAll,
        preorder_eq]
      simp

/-! ## Places -/

/-- The type at a place inside a type. No number leads to the type itself, and every number leads on to
one of the types directly inside. -/
def inner? (d : Descriptor) : List Nat → Option Descriptor
  | [] => some d
  | n :: place => d.nested[n]?.bind fun e => e.inner? place

/-- The type at a place in some types, of which the first number of the place chooses one. -/
def typeAt? (types : List Descriptor) : List Nat → Option Descriptor
  | [] => none
  | n :: place => types[n]?.bind fun d => d.inner? place

theorem inner?_cons (d : Descriptor) (n : Nat) (place : List Nat) :
    d.inner? (n :: place) = typeAt? d.nested (n :: place) := rfl

mutual

/-- The types in a type with their places. -/
def placed (d : Descriptor) : List (List Nat × Descriptor) :=
  match d with
  | ⟨_, _, _, _, _, _, _, _, _, nested⟩ => ([], d) :: placedFrom 0 nested

/-- The types in some types with their places, when the first of them counts as the `n`-th. -/
def placedFrom (n : Nat) : List Descriptor → List (List Nat × Descriptor)
  | [] => []
  | d :: rest => d.placed.map (fun entry => (n :: entry.1, entry.2)) ++ placedFrom (n + 1) rest

end

mutual

theorem map_bare_placed : ∀ d : Descriptor, d.placed.map (·.2.bare) = d.preorder
  | ⟨_, _, _, _, _, _, _, _, _, nested⟩ => by
      simp only [placed, preorder, List.map_cons, map_bare_placedFrom nested 0]

theorem map_bare_placedFrom : ∀ (types : List Descriptor) (n : Nat),
    (placedFrom n types).map (·.2.bare) = preorderAll types
  | [], _ => rfl
  | d :: rest, n => by
      simp only [placedFrom, preorderAll, List.map_append, List.map_map]
      exact congrArg₂ _ (map_bare_placed d) (map_bare_placedFrom rest (n + 1))

end

/-- Places among some types begin with the number of one of them. -/
theorem exists_of_mem_placedFrom {entry : List Nat × Descriptor}
    (h : entry ∈ placedFrom n types) : ∃ m place, n ≤ m ∧ entry.1 = m :: place := by
  induction types generalizing n with
  | nil => exact absurd h List.not_mem_nil
  | cons d rest ih =>
      rw [placedFrom] at h
      rcases List.mem_append.mp h with hfirst | hrest
      · obtain ⟨inner, _, rfl⟩ := List.mem_map.mp hfirst
        exact ⟨n, inner.1, Nat.le_refl n, rfl⟩
      · obtain ⟨m, place, hm, heq⟩ := ih hrest
        exact ⟨m, place, by omega, heq⟩

mutual

/-- Places ascend: a type comes before the types inside it, and these before the next one. -/
theorem ascending_placed : ∀ d : Descriptor, d.placed.Pairwise fun a b => a.1 < b.1
  | ⟨_, _, _, _, _, _, _, _, _, nested⟩ => by
      simp only [placed, List.pairwise_cons]
      refine ⟨?_, ascending_placedFrom nested 0⟩
      intro entry hentry
      obtain ⟨m, place, _, heq⟩ := exists_of_mem_placedFrom hentry
      rw [heq]
      exact List.nil_lt_cons m place

theorem ascending_placedFrom : ∀ (types : List Descriptor) (n : Nat),
    (placedFrom n types).Pairwise fun a b => a.1 < b.1
  | [], _ => .nil
  | d :: rest, n => by
      simp only [placedFrom, List.pairwise_append, List.pairwise_map]
      refine ⟨?_, ascending_placedFrom rest (n + 1), ?_⟩
      · refine (ascending_placed d).imp ?_
        intro a b hlt
        exact List.cons_lt_cons_iff.mpr (Or.inr ⟨rfl, hlt⟩)
      · intro a ha b hb
        obtain ⟨inner, _, rfl⟩ := List.mem_map.mp ha
        obtain ⟨m, place, hm, heq⟩ := exists_of_mem_placedFrom hb
        rw [heq]
        exact List.cons_lt_cons_iff.mpr (Or.inl hm)

end

mutual

theorem mem_placed_iff : ∀ (d : Descriptor) {place : List Nat} {e : Descriptor},
    (place, e) ∈ d.placed ↔ d.inner? place = some e
  | ⟨_, _, _, _, _, _, _, _, _, nested⟩, [], e => by
      simp only [placed, List.mem_cons, Prod.mk.injEq, inner?, true_and, Option.some.injEq]
      constructor
      · rintro (rfl | hinner)
        · rfl
        · obtain ⟨_, _, _, heq⟩ := exists_of_mem_placedFrom hinner
          exact absurd heq (by simp)
      · exact fun h => Or.inl h.symm
  | ⟨_, _, _, _, _, _, _, _, _, nested⟩, m :: place, e => by
      simp only [placed, List.mem_cons, Prod.mk.injEq, reduceCtorEq, false_and, false_or,
        mem_placedFrom_iff nested, inner?_cons, Nat.sub_zero, Nat.zero_le, true_and]

theorem mem_placedFrom_iff : ∀ (types : List Descriptor) {n m : Nat} {place : List Nat}
    {e : Descriptor}, (m :: place, e) ∈ placedFrom n types ↔
      n ≤ m ∧ typeAt? types ((m - n) :: place) = some e
  | [], _, _, _, _ => by simp [placedFrom, typeAt?]
  | d :: rest, n, m, place, e => by
      simp only [placedFrom, List.mem_append, List.mem_map, Prod.mk.injEq, List.cons.injEq,
        mem_placedFrom_iff rest]
      constructor
      · rintro (⟨⟨p, o⟩, hmem, ⟨rfl, rfl⟩, rfl⟩ | ⟨hle, hat⟩)
        · refine ⟨Nat.le_refl n, ?_⟩
          rw [Nat.sub_self]
          exact (mem_placed_iff d).mp hmem
        · refine ⟨by omega, ?_⟩
          have hnext : m - n = (m - (n + 1)) + 1 := by omega
          rw [hnext]
          exact hat
      · rintro ⟨hle, hat⟩
        rcases Nat.eq_or_lt_of_le hle with rfl | hlt
        · rw [Nat.sub_self] at hat
          exact Or.inl ⟨(place, e), (mem_placed_iff d).mpr hat, ⟨rfl, rfl⟩, rfl⟩
        · have hnext : m - n = (m - (n + 1)) + 1 := by omega
          rw [hnext] at hat
          exact Or.inr ⟨hlt, hat⟩

end

end Descriptor

/-! ## Lists in order -/

/-- Some types with their places are those in a list of types that are kept: they stand at ascending
places, and the type at each place is there once. -/
structure Places (types : List Descriptor) (keep : Descriptor → Prop)
    (placed : List (List Nat × Descriptor)) : Prop where
  ascending : placed.Pairwise fun a b => a.1 < b.1
  mem_iff : ∀ place d, (place, d) ∈ placed ↔ Descriptor.typeAt? types place = some d ∧ keep d

/-- A list of the types that are kept, in the order of their places, each without the types inside it. -/
def ListsInOrder (types : List Descriptor) (keep : Descriptor → Prop) (listed : List Descriptor) :
    Prop :=
  ∃ placed, Places types keep placed ∧ listed = placed.map (·.2.bare)

namespace ListsInOrder

variable {types listed listed' : List Descriptor} {keep : Descriptor → Prop} {p : Descriptor → Bool}

/-- There is only one way to list the types that are kept in order. -/
theorem unique (h : ListsInOrder types keep listed) (h' : ListsInOrder types keep listed') :
    listed = listed' := by
  obtain ⟨placed, hplaced, rfl⟩ := h
  obtain ⟨placed', hplaced', rfl⟩ := h'
  have hnodup : ∀ {entries : List (List Nat × Descriptor)},
      entries.Pairwise (fun a b => a.1 < b.1) → entries.Nodup := by
    intro entries hlt
    refine hlt.imp ?_
    rintro a b hab rfl
    exact lt_irrefl a.1 hab
  have hperm : placed.Perm placed' := by
    rw [List.perm_ext_iff_of_nodup (hnodup hplaced.ascending) (hnodup hplaced'.ascending)]
    rintro ⟨place, d⟩
    rw [hplaced.mem_iff, hplaced'.mem_iff]
  rw [hperm.eq_of_pairwise (fun a b _ _ hab hba => absurd (lt_trans hab hba) (lt_irrefl a.1))
    hplaced.ascending hplaced'.ascending]

/-- The types that pass a test which does not look at the types inside them are listed in order. -/
theorem filter_flatten (hbare : ∀ d : Descriptor, p d.bare = p d) :
    ListsInOrder types (p · = true) ((flatten types).filter p) := by
  refine ⟨(Descriptor.placedFrom 0 types).filter fun entry => p entry.2, ⟨?_, ?_⟩, ?_⟩
  · exact (Descriptor.ascending_placedFrom types 0).filter _
  · intro place d
    rw [List.mem_filter]
    refine and_congr_left fun _ => ?_
    cases place with
    | nil =>
        constructor
        · intro hmem
          obtain ⟨_, _, _, heq⟩ := Descriptor.exists_of_mem_placedFrom hmem
          exact absurd heq (by simp)
        · intro hat
          exact absurd hat (by simp [Descriptor.typeAt?])
    | cons m place => rw [Descriptor.mem_placedFrom_iff, Nat.sub_zero, and_iff_right (Nat.zero_le m)]
  · rw [Descriptor.flatten_eq_preorderAll, ← Descriptor.map_bare_placedFrom types 0, List.filter_map]
    congr 2
    funext entry
    exact hbare entry.2

theorem congr {keep' : Descriptor → Prop} (h : ListsInOrder types keep listed)
    (hkeep : ∀ d, keep d ↔ keep' d) : ListsInOrder types keep' listed := by
  obtain rfl : keep = keep' := funext fun d => propext (hkeep d)
  exact h

end ListsInOrder

/-! ## Divided by package -/

namespace Discovery

/-- Puts a type where it belongs: an annotation nowhere, and every other type by its package. -/
def put (packages : List String) (found : Discovery) (d : Descriptor) : Discovery :=
  if d.kind = .annotationType then found
  else if inPackages d.name packages then { found with candidates := found.candidates ++ [d] }
  else { found with references := found.references ++ [d] }

/-- Putting types one after the other divides them as two tests do. -/
theorem foldl_put (packages : List String) (types : List Descriptor) (found : Discovery) :
    types.foldl (put packages) found = { found with
      candidates := found.candidates ++
        (types.filter (·.kind != .annotationType)).filter fun d => inPackages d.name packages
      references := found.references ++
        (types.filter (·.kind != .annotationType)).filter fun d => !inPackages d.name packages } := by
  induction types generalizing found with
  | nil => simp
  | cons d rest ih =>
      rw [List.foldl_cons, ih, put]
      by_cases hkind : d.kind = .annotationType
      · simp [hkind]
      · cases hinside : inPackages d.name packages <;> simp [hkind, hinside]

/-- All types are taken out of types in pre-order, by recursion as well as with a stack, and each stands
once at its place, without the types inside it. Of these the candidates are those in the packages that are
no annotations, and the references are the others, in the same order; an annotation does not take along
the types inside it. -/
theorem ofTypes_lists (types : List Descriptor) (packages : List String) :
    (flatten types = Descriptor.preorderAll types ∧
      Descriptor.unstack types.reverse [] = flatten types ∧
      ListsInOrder types (fun _ => True) (flatten types)) ∧
    (flatten types).foldl (put packages) {} = ofTypes types packages ∧
    ListsInOrder types (fun d => d.kind ≠ .annotationType ∧ inPackages d.name packages = true)
      (ofTypes types packages).candidates ∧
    ListsInOrder types (fun d => d.kind ≠ .annotationType ∧ inPackages d.name packages = false)
      (ofTypes types packages).references := by
  have hstack : Descriptor.unstack types.reverse [] = flatten types := by
    rw [Descriptor.unstack_eq, List.reverse_reverse, Descriptor.flatten_eq_preorderAll,
      List.nil_append]
  have hall : ListsInOrder types (fun _ => True) (flatten types) := by
    have h : ListsInOrder types (fun _ => true = true) ((flatten types).filter fun _ => true) :=
      ListsInOrder.filter_flatten fun _ => rfl
    rw [List.filter_true] at h
    exact h.congr fun _ => iff_of_true rfl trivial
  have hloop : (flatten types).foldl (put packages) {} = ofTypes types packages := by
    rw [foldl_put]
    rfl
  refine ⟨⟨Descriptor.flatten_eq_preorderAll types, hstack, hall⟩, hloop, ?_, ?_⟩
  · have hlisted : (ofTypes types packages).candidates = (flatten types).filter fun d =>
        inPackages d.name packages && d.kind != .annotationType := List.filter_filter
    rw [hlisted]
    exact (ListsInOrder.filter_flatten fun _ => rfl).congr fun d => by simp [and_comm]
  · have hlisted : (ofTypes types packages).references = (flatten types).filter fun d =>
        !inPackages d.name packages && d.kind != .annotationType := List.filter_filter
    rw [hlisted]
    exact (ListsInOrder.filter_flatten fun _ => rfl).congr fun d => by simp [and_comm]

/-- The type inside an annotation stays, at the place of the annotation. -/
example : ((ofTypes [{ name := "shop.Order", kind := .classType },
    { name := "shop.Marked", kind := .annotationType
      nested := [{ name := "shop.Marked$Level", kind := .enum }] },
    { name := "shop.Desk", kind := .classType }] ["shop"]).candidates.map (·.name)) =
      ["shop.Order", "shop.Marked$Level", "shop.Desk"] := by
  decide +kernel

end Discovery

end TypeGraph
