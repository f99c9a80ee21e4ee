import TypeGraph.Unicode.Ranges

/-!
# Ranges of characters in UTF-8

The characters of a range, as byte sequences. A product of byte ranges, one for each place, covers a range
of characters only if the encodings have one length and each place runs through all its values before an
earlier place changes. `blocks` cuts a range into as few pieces of this kind as possible, in ascending
order.
-/

namespace TypeGraph.Unicode.Utf8

/-- A range of bytes. -/
abbrev ByteRange := Nat × Nat

/-- The greatest code points of one, two and three bytes. -/
def lengthEnds : List Nat := [0x7f, 0x7ff, 0xffff]

/-- The numbers of code points that share all bytes but the last one, two or three. -/
def blockSizes : List Nat := [Nat.pow 2 6, Nat.pow 2 12, Nat.pow 2 18]

/-- Where a range leaves a block of a size, if one of its ends is not an end of a block: the last code
point before the cut. -/
def blockCut? (low high size : Nat) : Option Nat :=
  if low / size = high / size then none
  else if low % size ≠ 0 then some (low / size * size + (size - 1))
  else if high % size ≠ size - 1 then some (high / size * size - 1)
  else none

/-- The last code point of the first piece of a range, if the range has to be cut. -/
def cut? (low high : Nat) : Option Nat :=
  match lengthEnds.find? fun last => low ≤ last && last < high with
  | some last => some last
  | none => if high ≤ 0x7f then none else blockSizes.findSome? (blockCut? low high)

/-- The bytes of a character. -/
def encode (code : Nat) : List Nat := (String.utf8EncodeChar (Char.ofNat code)).map UInt8.toNat

/-- The byte ranges of a range of characters without surrogates. -/
def blocks (low high : Nat) : List (List ByteRange) :=
  match cut? low high with
  | some last =>
    if _ : low ≤ last ∧ last < high then blocks low last ++ blocks (last + 1) high
    else [(encode low).zip (encode high)]
  | none => [(encode low).zip (encode high)]
termination_by high - low
decreasing_by all_goals omega

/-- The parts of a range before and after the surrogates, as far as they hold anything. -/
def aroundSurrogates (bounds : Nat × Nat) : List (Nat × Nat) :=
  [(bounds.1, Nat.min bounds.2 0xd7ff), (Nat.max bounds.1 0xe000, bounds.2)].filter
    fun (low, high) => low ≤ high

/-- The byte sequences of a set. -/
def sequences (set : Ranges) : List (List ByteRange) :=
  (set.bounds.flatMap aroundSurrogates).flatMap fun (low, high) => blocks low high

end TypeGraph.Unicode.Utf8
