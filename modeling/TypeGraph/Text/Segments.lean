/-!
# Segments

Texts divided at a separator: `app.model.User` has the segments `app`, `model` and `User`. Dividing
and joining are inverse to each other (`intercalate_split`), so a text is determined by its segments.
-/

namespace TypeGraph.Text

/-! ## Dividing characters -/

/-- The parts of a text between separators; a text without one is its own only part. -/
def split (separator : Char) : List Char → List (List Char)
  | [] => [[]]
  | c :: rest =>
    if c = separator then [] :: split separator rest
    else match split separator rest with
      | [] => [[c]]
      | first :: others => (c :: first) :: others

theorem split_ne_nil (separator : Char) (text : List Char) : split separator text ≠ [] := by
  cases text with
  | nil => simp [split]
  | cons c rest =>
    rw [split]
    split
    · simp
    · split <;> simp

theorem split_cons_separator (separator : Char) (text : List Char) :
    split separator (separator :: text) = [] :: split separator text := by
  simp [split]

theorem split_cons_of_ne {separator c : Char} (h : c ≠ separator) (text : List Char) :
    ∃ first others, split separator text = first :: others ∧
      split separator (c :: text) = (c :: first) :: others := by
  obtain ⟨first, others, heq⟩ := List.exists_cons_of_ne_nil (split_ne_nil separator text)
  exact ⟨first, others, heq, by simp [split, h, heq]⟩

/-- Joining the parts again gives the text. -/
theorem intercalate_split (separator : Char) (text : List Char) :
    [separator].intercalate (split separator text) = text := by
  induction text with
  | nil => rfl
  | cons c rest ih =>
    by_cases h : c = separator
    · subst h
      rw [split_cons_separator]
      obtain ⟨first, others, heq⟩ := List.exists_cons_of_ne_nil (split_ne_nil c rest)
      rw [heq] at ih ⊢
      simpa [List.intercalate] using ih
    · obtain ⟨first, others, heq, hcons⟩ := split_cons_of_ne h rest
      rw [heq] at ih
      rw [hcons, ← ih]
      cases others <;> simp [List.intercalate]

/-! ## Segments of a string -/

/-- The segments of a string. -/
def segments (separator : Char) (s : String) : List String :=
  (split separator s.toList).map String.ofList

/-- The segments joined again by the separator. -/
def joined (separator : Char) (parts : List String) : String :=
  (String.singleton separator).intercalate parts

/-- The text after the last separator, or the whole text. -/
def lastSegment (separator : Char) (s : String) : String :=
  (segments separator s).getLastD ""

/-- The text before the last separator; empty when there is none. -/
def beforeLastSegment (separator : Char) (s : String) : String :=
  joined separator (segments separator s).dropLast

/-! ## Parts of a text -/

/-- Whether the first text occurs in the second. -/
def occursIn (needle : List Char) : List Char → Bool
  | [] => needle.isEmpty
  | c :: rest => needle.isPrefixOf (c :: rest) || occursIn needle rest

/-- A text with every occurrence of one character replaced by another. -/
def replaceChar (old new : Char) (s : String) : String :=
  String.ofList (s.toList.map fun c => if c = old then new else c)

end TypeGraph.Text
