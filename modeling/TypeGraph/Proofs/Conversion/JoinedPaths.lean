import Mathlib.Data.List.DropRight
import TypeGraph.Conversion.Endpoint

/-!
# Laws of joined paths

Slashes where two paths meet count as one, so joining does not depend on them (`joinPath_slashes`), and
between two parts that are more than slashes there is one. Joining is associative (`joinPath_assoc`): what
is left of the part in the middle when slashes are taken away at both of its ends is the same whichever
end comes first, and joining what is left is associative.
-/

namespace TypeGraph.Endpoint

variable {x y : List Char}

/-! ## Trimmed parts -/

theorem reverse_trimEnd (x : List Char) : (trimEnd x).reverse = trimStart x.reverse := by
  unfold trimEnd trimStart
  rw [List.reverse_reverse]

/-- A trimmed part does not begin with a slash, -/
theorem head?_trimStart_ne (x : List Char) : (trimStart x).head? ≠ some '/' := by
  intro h
  have hnot := List.head?_dropWhile_not (fun c : Char => decide (c = '/')) x
  unfold trimStart at h
  rw [h] at hnot
  simp at hnot

/-- and does not end with one. -/
theorem getLast?_trimEnd_ne (x : List Char) : (trimEnd x).getLast? ≠ some '/' := by
  rw [← List.head?_reverse, reverse_trimEnd]
  exact head?_trimStart_ne _

theorem trimStart_of_head?_ne (h : x.head? ≠ some '/') : trimStart x = x := by
  cases x with
  | nil => rfl
  | cons c rest =>
      have hc : c ≠ '/' := by
        intro hslash
        exact h (congrArg some hslash)
      unfold trimStart
      rw [List.dropWhile_cons_of_neg (by simpa using hc)]

theorem trimEnd_of_getLast?_ne (h : x.getLast? ≠ some '/') : trimEnd x = x := by
  rw [← List.reverse_inj, reverse_trimEnd]
  apply trimStart_of_head?_ne
  rw [List.head?_reverse]
  exact h

theorem trimStart_replicate_append (n : Nat) (x : List Char) :
    trimStart (List.replicate n '/' ++ x) = trimStart x := by
  unfold trimStart
  apply List.dropWhile_append_of_pos
  intro c hc
  simpa using List.eq_of_mem_replicate hc

theorem trimEnd_append_replicate (n : Nat) (x : List Char) :
    trimEnd (x ++ List.replicate n '/') = trimEnd x := by
  rw [← List.reverse_inj, reverse_trimEnd, reverse_trimEnd, List.reverse_append, List.reverse_replicate,
    trimStart_replicate_append]

/-- Nothing but slashes is taken away at the beginning, -/
theorem exists_replicate_append_trimStart (x : List Char) :
    ∃ n, x = List.replicate n '/' ++ trimStart x := by
  refine ⟨(x.takeWhile (· = '/')).length, ?_⟩
  have hslashes : x.takeWhile (· = '/') = List.replicate (x.takeWhile (· = '/')).length '/' := by
    apply List.eq_replicate_of_mem
    intro c hc
    simpa using List.mem_takeWhile_imp hc
  rw [← hslashes]
  exact List.takeWhile_append_dropWhile.symm

/-- and at the end. -/
theorem exists_trimEnd_append_replicate (x : List Char) :
    ∃ n, x = trimEnd x ++ List.replicate n '/' := by
  obtain ⟨n, hn⟩ := exists_replicate_append_trimStart x.reverse
  refine ⟨n, ?_⟩
  rw [← List.reverse_inj, List.reverse_append, List.reverse_replicate, reverse_trimEnd]
  exact hn

theorem trimStart_append (h : trimStart x ≠ []) (y : List Char) :
    trimStart (x ++ y) = trimStart x ++ y := by
  unfold trimStart at h ⊢
  rw [List.dropWhile_append, if_neg (by simpa using h)]

/-- A part that is trimmed at its end is empty if there are only slashes in it. -/
theorem trimStart_ne_nil (hlast : x.getLast? ≠ some '/') (hne : x ≠ []) : trimStart x ≠ [] := by
  unfold trimStart
  rw [Ne, List.dropWhile_eq_nil_iff]
  intro hall
  apply hlast
  rw [List.getLast?_eq_some_getLast hne, Option.some_inj]
  simpa using hall _ (List.getLast_mem hne)

theorem trimEnd_cons (c : Char) (x : List Char) :
    trimEnd (c :: x) = if trimEnd x = [] then trimEnd [c] else c :: trimEnd x := by
  unfold trimEnd
  rw [List.reverse_cons, List.dropWhile_append]
  by_cases hnil : x.reverse.dropWhile (· = '/') = []
  · simp [hnil]
  · rw [if_neg (by simpa using hnil), if_neg (by simpa using hnil), List.reverse_append]
    rfl

/-- Both ends can be trimmed in any order. -/
theorem trimStart_trimEnd (x : List Char) : trimStart (trimEnd x) = trimEnd (trimStart x) := by
  induction x with
  | nil => rfl
  | cons c rest ih =>
      by_cases hc : c = '/'
      · have hstart : trimStart (c :: rest) = trimStart rest := by
          rw [hc]
          rfl
        rw [hstart, ← ih, trimEnd_cons]
        by_cases hnil : trimEnd rest = []
        · rw [if_pos hnil, hnil, hc]
          rfl
        · rw [if_neg hnil, hc]
          rfl
      · have hstart : ∀ y, trimStart (c :: y) = c :: y := by
          intro y
          apply trimStart_of_head?_ne
          simpa using hc
        rw [hstart, trimEnd_cons]
        by_cases hnil : trimEnd rest = []
        · have hlast : [c].getLast? ≠ some '/' := by simpa using hc
          rw [if_pos hnil, trimEnd_of_getLast?_ne hlast, hstart]
        · rw [if_neg hnil, hstart]

/-! ## Parts that meet -/

theorem meet_nil_left (x : List Char) : meet [] x = x := rfl

theorem meet_nil_right (x : List Char) : meet x [] = x := by
  unfold meet
  by_cases hnil : x.isEmpty = true
  · rw [if_pos hnil, List.isEmpty_iff.mp hnil]
  · rw [if_neg hnil, if_pos List.isEmpty_nil]

theorem meet_of_ne_nil (hx : x ≠ []) (hy : y ≠ []) : meet x y = x ++ '/' :: y := by
  unfold meet
  rw [if_neg (by simpa using hx), if_neg (by simpa using hy)]

theorem meet_cons (c : Char) (hx : x ≠ []) (y : List Char) : meet (c :: x) y = c :: meet x y := by
  by_cases hy : y = []
  · rw [hy, meet_nil_right, meet_nil_right]
  · rw [meet_of_ne_nil (List.cons_ne_nil c x) hy, meet_of_ne_nil hx hy, List.cons_append]

theorem meet_assoc (x y z : List Char) : meet (meet x y) z = meet x (meet y z) := by
  by_cases hx : x = []
  · rw [hx, meet_nil_left, meet_nil_left]
  · by_cases hy : y = []
    · rw [hy, meet_nil_right, meet_nil_left]
    · by_cases hz : z = []
      · rw [hz, meet_nil_right, meet_nil_right]
      · have hxy : meet x y ≠ [] := by simp [meet_of_ne_nil hx hy]
        have hyz : meet y z ≠ [] := by simp [meet_of_ne_nil hy hz]
        rw [meet_of_ne_nil hxy hz, meet_of_ne_nil hx hyz, meet_of_ne_nil hx hy, meet_of_ne_nil hy hz,
          List.append_assoc, List.cons_append]

theorem reverse_meet (x y : List Char) : (meet x y).reverse = meet y.reverse x.reverse := by
  by_cases hx : x = []
  · rw [hx, List.reverse_nil, meet_nil_left, meet_nil_right]
  · by_cases hy : y = []
    · rw [hy, List.reverse_nil, meet_nil_left, meet_nil_right]
    · rw [meet_of_ne_nil hx hy, meet_of_ne_nil (by simpa using hy) (by simpa using hx)]
      simp

/-- The slashes at the beginning of joined parts are those of the first one. -/
theorem trimStart_meet (hx : x.getLast? ≠ some '/') (hy : y.head? ≠ some '/') :
    trimStart (meet x y) = meet (trimStart x) y := by
  by_cases hxnil : x = []
  · rw [hxnil, meet_nil_left, trimStart_of_head?_ne hy]
    rfl
  · have hleft : trimStart x ≠ [] := trimStart_ne_nil hx hxnil
    by_cases hynil : y = []
    · rw [hynil, meet_nil_right, meet_nil_right]
    · rw [meet_of_ne_nil hxnil hynil, meet_of_ne_nil hleft hynil, trimStart_append hleft]

/-- The slashes at the end of joined parts are those of the second one. -/
theorem trimEnd_meet (hx : x.getLast? ≠ some '/') (hy : y.head? ≠ some '/') :
    trimEnd (meet x y) = meet x (trimEnd y) := by
  rw [← List.reverse_inj, reverse_trimEnd, reverse_meet, reverse_meet, reverse_trimEnd]
  apply trimStart_meet
  · rwa [List.getLast?_reverse]
  · rwa [List.head?_reverse]

/-! ## Paths from the root -/

theorem rooted_of_head? (h : x.head? = some '/') : rooted x = x := by
  unfold rooted
  rw [if_pos h]

theorem rooted_of_head?_ne (h : x.head? ≠ some '/') : rooted x = '/' :: x := by
  unfold rooted
  rw [if_neg h]

theorem head?_rooted (x : List Char) : (rooted x).head? = some '/' := by
  by_cases h : x.head? = some '/'
  · rw [rooted_of_head? h, h]
  · rw [rooted_of_head?_ne h, List.head?_cons]

theorem trimStart_rooted (x : List Char) : trimStart (rooted x) = trimStart x := by
  by_cases h : x.head? = some '/'
  · rw [rooted_of_head? h]
  · rw [rooted_of_head?_ne h]
    rfl

theorem head?_meet (hx : x ≠ []) (y : List Char) : (meet x y).head? = x.head? := by
  by_cases hy : y = []
  · rw [hy, meet_nil_right]
  · rw [meet_of_ne_nil hx hy, List.head?_append_of_ne_nil _ hx]

/-- It makes no difference for a path from the root whether its first part is one. -/
theorem rooted_meet_trimEnd_rooted (x y : List Char) :
    rooted (meet (trimEnd (rooted x)) y) = rooted (meet (trimEnd x) y) := by
  by_cases h : x.head? = some '/'
  · rw [rooted_of_head? h]
  · rw [rooted_of_head?_ne h, trimEnd_cons]
    by_cases hnil : trimEnd x = []
    · rw [if_pos hnil, hnil]
      rfl
    · have hhead : (meet (trimEnd x) y).head? ≠ some '/' := by
        rw [head?_meet hnil, ← trimStart_of_head?_ne h, ← trimStart_trimEnd]
        exact head?_trimStart_ne _
      rw [if_neg hnil, meet_cons '/' hnil, rooted_of_head? List.head?_cons, rooted_of_head?_ne hhead]

/-! ## Joined paths -/

theorem toList_joinPath (a b : String) :
    (joinPath a b).toList = rooted (meet (trimEnd a.toList) (trimStart b.toList)) := by
  rw [joinPath, String.toList_ofList]

/-- Some slashes. -/
def slashes (n : Nat) : String := String.ofList (List.replicate n '/')

/-- Slashes where two paths meet make no difference. -/
theorem joinPath_slashes (a b : String) (m n : Nat) :
    joinPath (a ++ slashes m) (slashes n ++ b) = joinPath a b := by
  rw [← String.toList_inj, toList_joinPath, toList_joinPath, slashes, slashes, String.toList_append,
    String.toList_append, String.toList_ofList, String.toList_ofList, trimEnd_append_replicate,
    trimStart_replicate_append]

/-- Two parts that are more than slashes have one slash between them. -/
theorem joinPath_of_ne {a b : String} (ha : a ≠ "") (hb : b ≠ "") (hlast : a.toList.getLast? ≠ some '/')
    (hfirst : b.toList.head? ≠ some '/') :
    joinPath a b = (if a.toList.head? = some '/' then "" else "/") ++ a ++ "/" ++ b := by
  have hane : a.toList ≠ [] := by simpa using ha
  have hbne : b.toList ≠ [] := by simpa using hb
  rw [← String.toList_inj, toList_joinPath, trimEnd_of_getLast?_ne hlast, trimStart_of_head?_ne hfirst,
    meet_of_ne_nil hane hbne]
  have hhead : (a.toList ++ '/' :: b.toList).head? = a.toList.head? := List.head?_append_of_ne_nil _ hane
  by_cases h : a.toList.head? = some '/'
  · rw [rooted_of_head? (hhead.trans h), if_pos h]
    simp
  · rw [rooted_of_head?_ne (by rwa [hhead]), if_neg h]
    simp

/-- Any two paths are two parts without slashes where they meet, and some slashes. -/
theorem exists_parts (a b : String) : ∃ x y m n, a = x ++ slashes m ∧ b = slashes n ++ y ∧
    x.toList.getLast? ≠ some '/' ∧ y.toList.head? ≠ some '/' := by
  obtain ⟨m, hm⟩ := exists_trimEnd_append_replicate a.toList
  obtain ⟨n, hn⟩ := exists_replicate_append_trimStart b.toList
  refine ⟨String.ofList (trimEnd a.toList), String.ofList (trimStart b.toList), m, n, ?_, ?_, ?_, ?_⟩
  · rw [slashes, ← String.ofList_append, ← hm, String.ofList_toList]
  · rw [slashes, ← String.ofList_append, ← hn, String.ofList_toList]
  · rw [String.toList_ofList]
    exact getLast?_trimEnd_ne _
  · rw [String.toList_ofList]
    exact head?_trimStart_ne _

/-- Joining is associative. -/
theorem joinPath_assoc (a b c : String) : joinPath (joinPath a b) c = joinPath a (joinPath b c) := by
  have ha := getLast?_trimEnd_ne a.toList
  have hc := head?_trimStart_ne c.toList
  -- what is left of the part in the middle
  have hmiddle := trimStart_trimEnd b.toList
  rw [← String.toList_inj]
  calc (joinPath (joinPath a b) c).toList
      = rooted (meet (trimEnd (meet (trimEnd a.toList) (trimStart b.toList))) (trimStart c.toList)) := by
        rw [toList_joinPath, toList_joinPath, rooted_meet_trimEnd_rooted]
    _ = rooted (meet (meet (trimEnd a.toList) (trimEnd (trimStart b.toList))) (trimStart c.toList)) := by
        rw [trimEnd_meet ha (head?_trimStart_ne _)]
    _ = rooted (meet (trimEnd a.toList) (meet (trimStart (trimEnd b.toList)) (trimStart c.toList))) := by
        rw [meet_assoc, hmiddle]
    _ = rooted (meet (trimEnd a.toList) (trimStart (meet (trimEnd b.toList) (trimStart c.toList)))) := by
        rw [trimStart_meet (getLast?_trimEnd_ne _) hc]
    _ = (joinPath a (joinPath b c)).toList := by
        rw [toList_joinPath, toList_joinPath, trimStart_rooted]

/-- A joined path begins with a slash. Slashes where its parts meet make no difference, and if the parts are
more than slashes, there is one between what is left of them. Joining is associative. -/
theorem joinPath_laws (a b c : String) :
    (joinPath a b).toList.head? = some '/' ∧
      (∀ m n, joinPath (a ++ slashes m) (slashes n ++ b) = joinPath a b) ∧
      (∃ x y m n, a = x ++ slashes m ∧ b = slashes n ++ y ∧
        x.toList.getLast? ≠ some '/' ∧ y.toList.head? ≠ some '/' ∧
        (x ≠ "" → y ≠ "" →
          joinPath a b = (if x.toList.head? = some '/' then "" else "/") ++ x ++ "/" ++ y)) ∧
      joinPath (joinPath a b) c = joinPath a (joinPath b c) := by
  refine ⟨?_, joinPath_slashes a b, ?_, joinPath_assoc a b c⟩
  · rw [toList_joinPath]
    exact head?_rooted _
  · obtain ⟨x, y, m, n, ha, hb, hlast, hfirst⟩ := exists_parts a b
    refine ⟨x, y, m, n, ha, hb, hlast, hfirst, ?_⟩
    intro hx hy
    rw [ha, hb, joinPath_slashes]
    exact joinPath_of_ne hx hy hlast hfirst

/-- Slashes within a part stay. -/
example : joinPath "//shop/" "/orders//{id}/" = "//shop/orders//{id}/" := by decide

end TypeGraph.Endpoint
