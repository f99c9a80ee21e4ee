import TypeGraph.Text.Segments

/-!
# Sets of characters

A `Ranges` is a set of characters given by inclusive ranges of code points. The large sets of the
Unicode standard are written as texts of hexadecimal ranges, which `Ranges.ofText` reads.
-/

namespace TypeGraph.Unicode

/-- A set of characters: the union of inclusive ranges of code points. -/
structure Ranges where
  bounds : List (Nat × Nat)

namespace Ranges

/-! ## Membership -/

/-- Whether a character lies in one of the ranges. -/
def contains (s : Ranges) (c : Char) : Bool :=
  s.bounds.any fun (low, high) => low ≤ c.toNat && c.toNat ≤ high

/-- All characters of some sets. -/
def union (sets : List Ranges) : Ranges := ⟨sets.flatMap bounds⟩

/-! ## Algebra -/

/-- The code points beyond all characters start here. -/
def codePointEnd : Nat := 0x110000

/-- Joins a range with those after it that overlap or touch it; the list is sorted by lower bounds. -/
def mergeFrom (low high : Nat) : List (Nat × Nat) → List (Nat × Nat)
  | [] => [(low, high)]
  | (low', high') :: rest =>
    if low' ≤ high + 1 then mergeFrom low (max high high') rest
    else (low, high) :: mergeFrom low' high' rest

/-- Joins overlapping and touching ranges of a list sorted by lower bounds. -/
def merge : List (Nat × Nat) → List (Nat × Nat)
  | [] => []
  | (low, high) :: rest => mergeFrom low high rest

/-- The same set with as few ranges as possible, in ascending order. -/
def normal (s : Ranges) : Ranges :=
  ⟨merge ((s.bounds.filter fun (low, high) => low ≤ high).mergeSort fun a b => a.1 ≤ b.1)⟩

/-- The gaps between ascending ranges, from a code point on. -/
def gaps (start : Nat) : List (Nat × Nat) → List (Nat × Nat)
  | [] => if start < codePointEnd then [(start, codePointEnd - 1)] else []
  | (low, high) :: rest =>
    if start < low then (start, low - 1) :: gaps (high + 1) rest else gaps (high + 1) rest

/-- Code points that are no characters. -/
def surrogates : Ranges := ⟨[(0xd800, 0xdfff)]⟩

/-- All characters that are not in a set. -/
def complement (s : Ranges) : Ranges := ⟨gaps 0 (union [s, surrogates]).normal.bounds⟩

/-- The characters that two sets share. -/
def inter (s t : Ranges) : Ranges := (union [s.complement, t.complement]).complement

/-- The characters of the first set that are not in the second. -/
def diff (s t : Ranges) : Ranges := s.inter t.complement

/-- The characters that are in one of two sets only. -/
def symmDiff (s t : Ranges) : Ranges := union [s.diff t, t.diff s]

/-- The set of one character. -/
def single (c : Char) : Ranges := ⟨[(c.toNat, c.toNat)]⟩

/-- The set of the characters from one to another. -/
def between (low high : Char) : Ranges := ⟨[(low.toNat, high.toNat)]⟩

/-! ## Written form -/

/-- The non-empty parts of a text between blanks and line ends. -/
def words (text : List Char) : List (List Char) :=
  (Text.split ' ' (text.map fun c => if c = '\n' then ' ' else c)).filter (! ·.isEmpty)

/-- The value of a hexadecimal digit in lower case; anything else counts as zero. -/
def hexDigit (c : Char) : Nat :=
  if '0' ≤ c ∧ c ≤ '9' then c.toNat - '0'.toNat
  else if 'a' ≤ c ∧ c ≤ 'f' then c.toNat - 'a'.toNat + 10
  else 0

/-- The number written by hexadecimal digits. -/
def hexValue (digits : List Char) : Nat :=
  digits.foldl (fun value c => value * 16 + hexDigit c) 0

/-- One written range: two code points joined by a dash, or a single one. -/
def bound (word : List Char) : Nat × Nat :=
  match Text.split '-' word with
  | [low, high] => (hexValue low, hexValue high)
  | _ => (hexValue word, hexValue word)

/-- The set written as ranges divided by blanks. -/
def ofText (text : String) : Ranges := ⟨(words text.toList).map bound⟩

end Ranges

end TypeGraph.Unicode
