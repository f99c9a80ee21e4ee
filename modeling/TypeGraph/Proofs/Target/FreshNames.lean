import Mathlib.Data.Finset.Card
import Mathlib.Order.Bounds.Defs
import TypeGraph.Target.FreshName

/-!
# The search for a fresh name

The names that are tried are the preferred one and it with the numbers from two on. They are all different
(`attempt_injective`), so not all of the first ones are taken as soon as they are more than the taken names
(`le_card_of_isLeast`). `freshName` strikes what it has tried from the list; `search` leaves the taken names
alone and has a limit on its attempts instead. Both stop at the first attempt that is not taken, and one
attempt more than there are taken names is always enough (`freshFor_freshName`).
-/

namespace TypeGraph

variable {preferred name : String} {taken : List String} {i k m n limit : Nat}

/-! ## Attempts -/

/-- Numbers are told apart behind a name. -/
theorem numbered_inj (h : numbered preferred m = numbered preferred n) : m = n := by
  have hrepr : Nat.repr m = Nat.repr n := (String.append_right_inj preferred).mp h
  have hdigits : Nat.toDigits 10 m = Nat.toDigits 10 n := by
    rw [← Nat.toList_repr, ← Nat.toList_repr, hrepr]
  rw [← Nat.ofDigitChars_ten_toDigits (n := m), hdigits, Nat.ofDigitChars_ten_toDigits]

/-- A number behind a name is not empty. -/
theorem numbered_ne (preferred : String) (n : Nat) : numbered preferred n ≠ preferred := by
  intro h
  have hempty : Nat.repr n = "" := (String.append_right_inj preferred).mp (h.trans (by simp))
  have hdigits : Nat.toDigits 10 n = [] := by
    rw [← Nat.toList_repr, hempty, String.toList_empty]
  exact Nat.toDigits_ne_nil hdigits

/-- The names that are tried, in order: the preferred one, then it with the numbers from two on. -/
def attempt (preferred : String) : Nat → String
  | 0 => preferred
  | n + 1 => numbered preferred (n + 2)

theorem attempt_injective (preferred : String) : Function.Injective (attempt preferred) := by
  intro m n h
  cases m with
  | zero =>
      cases n with
      | zero => rfl
      | succ n => exact absurd h.symm (numbered_ne preferred (n + 2))
  | succ m =>
      cases n with
      | zero => exact absurd h (numbered_ne preferred (m + 2))
      | succ n =>
          have hnumber := numbered_inj h
          omega

/-! ## The first attempt that is not taken -/

theorem freshFrom_isLeast (preferred : String) (n : Nat) (taken : List String) :
    ∃ k, freshFrom preferred n taken = numbered preferred k ∧
      IsLeast {k | n ≤ k ∧ numbered preferred k ∉ taken} k := by
  fun_induction freshFrom preferred n taken with
  | case1 n taken h _ ih =>
      obtain ⟨k, heq, ⟨hlt, hfree⟩, hleast⟩ := ih
      -- what is struck from the list is no later attempt
      have hne : ∀ l, n + 1 ≤ l → numbered preferred l ≠ numbered preferred n := by
        intro l hl hsame
        have hnumber := numbered_inj hsame
        omega
      refine ⟨k, heq, ⟨by omega, ?_⟩, ?_⟩
      · intro hmem
        exact hfree ((List.mem_erase_of_ne (hne k hlt)).mpr hmem)
      · rintro l ⟨hl, hnot⟩
        have hlater : n ≠ l := by
          rintro rfl
          exact hnot h
        exact hleast ⟨by omega, fun hmem => hnot (List.mem_of_mem_erase hmem)⟩
  | case2 n taken h => exact ⟨n, rfl, ⟨Nat.le_refl n, h⟩, fun l hl => hl.1⟩

theorem freshName_eq_attempt (preferred : String) (taken : List String) :
    ∃ k, freshName preferred taken = attempt preferred k ∧
      IsLeast {k | attempt preferred k ∉ taken} k := by
  by_cases h : preferred ∈ taken
  · obtain ⟨k, heq, ⟨hk, hfree⟩, hleast⟩ := freshFrom_isLeast preferred 2 taken
    obtain ⟨k, rfl⟩ : ∃ l, k = l + 2 := ⟨k - 2, by omega⟩
    refine ⟨k + 1, ?_, hfree, ?_⟩
    · rw [freshName, if_pos h, heq, attempt]
    · intro l hl
      cases l with
      | zero => exact absurd h hl
      | succ l =>
          have hle := hleast ⟨Nat.le_add_left 2 l, hl⟩
          omega
  · exact ⟨0, freshName_of_not_mem h, h, fun l _ => Nat.zero_le l⟩

/-- A fresh name is not taken. -/
theorem freshName_not_mem (preferred : String) (taken : List String) :
    freshName preferred taken ∉ taken := by
  obtain ⟨k, heq, hfree, _⟩ := freshName_eq_attempt preferred taken
  rw [heq]
  exact hfree

/-! ## Counting attempts -/

/-- Tries a name and, as long as that is taken, the preferred one with the next number, in at most a number of
attempts. -/
def search (preferred : String) (taken : List String) : Nat → String → Nat → Option String
  | 0, _, _ => none
  | limit + 1, name, next =>
    if name ∈ taken then search preferred taken limit (numbered preferred next) (next + 1)
    else some name

/-- From an attempt on, the search stops at the first one that is not taken. -/
theorem search_attempt (h : IsLeast {k | i ≤ k ∧ attempt preferred k ∉ taken} k)
    (hlimit : k < i + limit) :
    search preferred taken limit (attempt preferred i) (i + 2) = some (attempt preferred k) := by
  induction limit generalizing i with
  | zero =>
      have hle := h.1.1
      omega
  | succ limit ih =>
      rw [search]
      by_cases htaken : attempt preferred i ∈ taken
      · have hne : i ≠ k := by
          rintro rfl
          exact h.1.2 htaken
        have hle := h.1.1
        have hrest : IsLeast {k | i + 1 ≤ k ∧ attempt preferred k ∉ taken} k :=
          ⟨⟨by omega, h.1.2⟩, fun l hl => h.2 ⟨Nat.le_of_succ_le hl.1, hl.2⟩⟩
        -- the next number belongs to the attempt after this one
        rw [if_pos htaken]
        exact ih hrest (by omega)
      · have hfirst : k ≤ i := h.2 ⟨Nat.le_refl i, htaken⟩
        rw [if_neg htaken, Nat.le_antisymm h.1.1 hfirst]

/-- The attempts before the first one that is not taken are different taken names. -/
theorem le_card_of_isLeast (h : IsLeast {k | attempt preferred k ∉ taken} k) :
    k ≤ taken.toFinset.card := by
  have hbefore : (Finset.range k).image (attempt preferred) ⊆ taken.toFinset := by
    intro x hx
    obtain ⟨l, hl, rfl⟩ := Finset.mem_image.mp hx
    rw [List.mem_toFinset]
    by_contra hfree
    exact absurd (h.2 hfree) (Nat.not_le.mpr (Finset.mem_range.mp hl))
  calc k = ((Finset.range k).image (attempt preferred)).card := by
        rw [Finset.card_image_of_injective _ (attempt_injective preferred), Finset.card_range]
    _ ≤ taken.toFinset.card := Finset.card_le_card hbefore

/-! ## Fresh names -/

/-- What a name has to be that is searched for with some names taken. -/
structure FreshFor (preferred : String) (taken : List String) (name : String) : Prop where
  free : name ∉ taken
  /-- It is the preferred one if that is not taken, -/
  kept : preferred ∉ taken → name = preferred
  /-- and otherwise that with the least number from two on that makes it free. -/
  least : preferred ∈ taken → ∃ n, IsLeast {n | 2 ≤ n ∧ numbered preferred n ∉ taken} n ∧
    name = numbered preferred n
  /-- It is found with at most one attempt more than there are taken names. -/
  found : search preferred taken (taken.toFinset.card + 1) preferred 2 = some name

theorem freshFor_freshName (preferred : String) (taken : List String) :
    FreshFor preferred taken (freshName preferred taken) where
  free := freshName_not_mem preferred taken
  kept := freshName_of_not_mem
  least := by
    intro h
    obtain ⟨n, heq, hleast⟩ := freshFrom_isLeast preferred 2 taken
    exact ⟨n, hleast, by rw [freshName, if_pos h, heq]⟩
  found := by
    obtain ⟨k, heq, hleast⟩ := freshName_eq_attempt preferred taken
    have hcard := le_card_of_isLeast hleast
    rw [heq]
    apply search_attempt (i := 0) _ (by omega)
    exact ⟨⟨Nat.zero_le k, hleast.1⟩, fun l hl => hleast.2 hl.2⟩

end TypeGraph
