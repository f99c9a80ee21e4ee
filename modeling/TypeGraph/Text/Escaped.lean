import TypeGraph.Unicode.Classes

/-!
# Escaped texts

The form in which messages show a text that may hold anything, a file path among them: between double
quotes, with a backslash before double quotes and backslashes, short escapes for line ends and tabs, and
the code point of every character that has no visible form of its own.
-/

namespace TypeGraph.Text

/-- Hexadecimal digits of a number in lower case, without leading zeros. -/
def hexDigits (n : Nat) : List Char := Nat.toDigits 16 n

/-- The escape that names a code point. -/
def codePointEscape (c : Char) : List Char :=
  "\\u\x7b".toList ++ hexDigits c.toNat ++ ['\x7d']

/-- One character of an escaped text. -/
def escapeChar (c : Char) : List Char :=
  if c = '\x00' then "\\0".toList
  else if c = '\t' then "\\t".toList
  else if c = '\r' then "\\r".toList
  else if c = '\n' then "\\n".toList
  else if c = '\\' ∨ c = '"' then ['\\', c]
  else if Unicode.isVisible c then [c]
  else codePointEscape c

/-- A text between double quotes, escaped. -/
def quoted (s : String) : String :=
  String.ofList ('"' :: (s.toList.flatMap escapeChar ++ ['"']))

/-- Whether a text holds nothing but white space. -/
def isBlank (s : String) : Bool := s.toList.all Unicode.isWhiteSpace

end TypeGraph.Text
