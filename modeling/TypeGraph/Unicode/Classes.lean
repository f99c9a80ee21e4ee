import TypeGraph.Unicode.Addition
import TypeGraph.Unicode.Property

/-!
# Classes of characters

The classes that the library asks for: blanks, letters and digits of names, word characters of patterns,
and the characters that a message shows as they are. Names and messages follow version 17.0 of the
standard, patterns follow version 16.0.
-/

namespace TypeGraph.Unicode

/-- White space in the sense of the standard, line ends and no-break spaces included. -/
def isWhiteSpace (c : Char) : Bool := Property.whiteSpace.contains c

/-! ## Names -/

/-- Letters, and marks and numbers used as letters. For ASCII no table is needed. -/
def isAlphabetic (c : Char) : Bool :=
  if c.toNat < 0x80 then c.isAlpha
  else Property.alphabetic.contains c || Addition.alphabetic.contains c

/-- Letters and numbers of any kind. -/
def isAlphanumeric (c : Char) : Bool :=
  if c.toNat < 0x80 then c.isAlphanum
  else isAlphabetic c || GeneralCategory.number.contains c || Addition.number.contains c

theorem isAlphanumeric_of_isAlphabetic {c : Char} (h : isAlphabetic c = true) :
    isAlphanumeric c = true := by
  unfold isAlphanumeric
  split
  · rename_i hascii
    rw [isAlphabetic, if_pos hascii] at h
    rw [Char.isAlphanum, h, Bool.true_or]
  · rw [h, Bool.true_or, Bool.true_or]

/-! ## Patterns -/

/-- Characters of words: letters, marks, decimal digits, connectors such as `_`, and joiners. -/
def wordCharacters : Ranges :=
  .union [Property.alphabetic, GeneralCategory.mark, GeneralCategory.decimalNumber,
    GeneralCategory.connectorPunctuation, Property.joinControl]

/-- Whether a character is one of words. -/
def isWordCharacter (c : Char) : Bool := wordCharacters.contains c

/-! ## Messages -/

/-- Characters without a visible form of their own: controls, format characters, characters for private
use, unassigned ones, separators, what is ignored by default, and marks that extend the character
before them. -/
def hidden : Ranges :=
  .union [GeneralCategory.other, GeneralCategory.separator, Property.defaultIgnorableCodePoint,
    Property.graphemeExtend.inter GeneralCategory.mark]

/-- Characters that a message shows as they are. The plain space is one of them. -/
def isVisible (c : Char) : Bool := c = ' ' || Addition.visible.contains c || !hidden.contains c

end TypeGraph.Unicode
