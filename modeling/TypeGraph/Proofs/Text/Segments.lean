import Mathlib.Data.String.Basic
import TypeGraph.Text.Segments

/-!
# Laws of segments

Dividing takes back joining when no part holds the separator (`segments_joined`), joining always takes
back dividing (`joined_segments`), and the characters of segments are those of the text without the
separator.
-/

namespace TypeGraph.Text

variable {separator c : Char} {text part : List Char} {s x : String} {parts rest : List String}

/-! ## Dividing -/

theorem split_eq_splitOn (separator : Char) (text : List Char) :
    split separator text = text.splitOn separator := by
  induction text with
  | nil => simp [split]
  | cons c rest ih =>
      rw [split, ih, List.splitOn_cons_eq_if_modifyHead]
      by_cases h : c = separator
      · simp [h]
      · obtain ⟨first, others, heq⟩ := List.exists_cons_of_ne_nil (List.splitOn_ne_nil separator rest)
        simp [h, heq]

theorem split_append_separator (separator : Char) (before after : List Char) :
    split separator (before ++ separator :: after) = split separator before ++ split separator after := by
  rw [split_eq_splitOn, split_eq_splitOn, split_eq_splitOn]
  exact List.splitOn_append_cons_self before after

/-- A text that goes on behind a separator has the segments of both parts. -/
theorem segments_append (separator : Char) (before after : String) :
    segments separator (before ++ String.singleton separator ++ after) =
      segments separator before ++ segments separator after := by
  unfold segments
  rw [String.toList_append, String.toList_append, String.toList_singleton, List.append_assoc,
    List.singleton_append, split_append_separator, List.map_append]

theorem segments_ne_nil (separator : Char) (s : String) : segments separator s ≠ [] := by
  unfold segments
  intro hnil
  exact split_ne_nil separator s.toList (List.map_eq_nil_iff.mp hnil)

/-- Dividing takes back joining. -/
theorem segments_joined (hne : parts ≠ []) (h : ∀ s ∈ parts, separator ∉ s.toList) :
    segments separator (joined separator parts) = parts := by
  have hparts : ∀ l ∈ parts.map String.toList, separator ∉ l := by
    intro l hl
    obtain ⟨s, hs, rfl⟩ := List.mem_map.mp hl
    exact h s hs
  have hsplit : split separator (joined separator parts).toList = parts.map String.toList := by
    rw [joined, String.toList_intercalate, String.toList_singleton, split_eq_splitOn]
    exact List.splitOn_intercalate separator hparts (by simpa using hne)
  rw [segments, hsplit, List.map_map]
  simp [Function.comp_def]

/-- Joining takes back dividing. -/
theorem joined_segments (separator : Char) (s : String) : joined separator (segments separator s) = s := by
  have hchars : String.toList ∘ String.ofList = id := by
    funext chars
    exact String.toList_ofList
  rw [← String.toList_inj, joined, String.toList_intercalate, String.toList_singleton, segments,
    List.map_map, hchars, List.map_id]
  exact intercalate_split separator s.toList

/-- The characters of a part are characters of the text, and none is the separator. -/
theorem mem_of_mem_split (hpart : part ∈ split separator text) (hc : c ∈ part) :
    c ∈ text ∧ c ≠ separator := by
  induction text generalizing part with
  | nil =>
      obtain rfl : part = [] := by simpa [split] using hpart
      exact absurd hc List.not_mem_nil
  | cons a rest ih =>
      by_cases h : a = separator
      · subst h
        rw [split_cons_separator] at hpart
        rcases List.mem_cons.mp hpart with rfl | hmem
        · exact absurd hc List.not_mem_nil
        · exact (ih hmem hc).imp_left (List.mem_cons_of_mem _)
      · obtain ⟨first, others, heq, hcons⟩ := split_cons_of_ne h rest
        rw [hcons] at hpart
        rw [heq] at ih
        rcases List.mem_cons.mp hpart with rfl | hmem
        · rcases List.mem_cons.mp hc with rfl | hlater
          · exact ⟨List.mem_cons_self, h⟩
          · exact (ih List.mem_cons_self hlater).imp_left (List.mem_cons_of_mem _)
        · exact (ih (List.mem_cons_of_mem _ hmem) hc).imp_left (List.mem_cons_of_mem _)

theorem mem_of_mem_segments (hs : s ∈ segments separator x) (hc : c ∈ s.toList) :
    c ∈ x.toList ∧ c ≠ separator := by
  obtain ⟨part, hpart, rfl⟩ := List.mem_map.mp hs
  exact mem_of_mem_split hpart (by simpa using hc)

/-! ## Joining -/

theorem joined_singleton (separator : Char) (s : String) : joined separator [s] = s :=
  String.intercalate_singleton

theorem joined_cons (separator : Char) (s : String) (hne : parts ≠ []) :
    joined separator (s :: parts) = s ++ String.singleton separator ++ joined separator parts := by
  cases parts with
  | nil => exact absurd rfl hne
  | cons second others => exact String.intercalate_cons_cons

theorem joined_append (hne : parts ≠ []) (hrest : rest ≠ []) :
    joined separator (parts ++ rest) =
      joined separator parts ++ String.singleton separator ++ joined separator rest :=
  String.intercalate_append_of_ne_nil hne hrest

/-- Joined parts begin as the first of them. -/
theorem head?_joined (separator : Char) (rest : List String) (hs : s ≠ "") :
    ∃ c ∈ s.toList, (joined separator (s :: rest)).toList.head? = some c := by
  obtain ⟨c, others, hchars⟩ := List.exists_cons_of_ne_nil (l := s.toList) (by simpa using hs)
  refine ⟨c, by simp [hchars], ?_⟩
  by_cases hrest : rest = []
  · rw [hrest, joined_singleton, hchars, List.head?_cons]
  · rw [joined_cons separator s hrest, String.toList_append, String.toList_append, hchars,
      List.cons_append, List.cons_append, List.head?_cons]

/-- The characters of joined parts are theirs, and the separator. -/
theorem mem_joined (hc : c ∈ (joined separator parts).toList) :
    c = separator ∨ ∃ s ∈ parts, c ∈ s.toList := by
  induction parts with
  | nil => simp [joined] at hc
  | cons first rest ih =>
      by_cases hrest : rest = []
      · subst hrest
        rw [joined_singleton] at hc
        exact Or.inr ⟨first, List.mem_cons_self, hc⟩
      · rw [joined_cons separator first hrest, String.toList_append, String.toList_append,
          List.mem_append, List.mem_append, String.toList_singleton, List.mem_singleton] at hc
        rcases hc with (hfirst | hseparator) | hlater
        · exact Or.inr ⟨first, List.mem_cons_self, hfirst⟩
        · exact Or.inl hseparator
        · exact (ih hlater).imp_right fun ⟨s, hs, hmem⟩ => ⟨s, List.mem_cons_of_mem _ hs, hmem⟩

end TypeGraph.Text
