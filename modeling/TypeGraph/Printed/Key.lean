import TypeGraph.Unicode.Classes

/-!
# Property keys

The printed form of the name of a property: the name itself when it is an identifier, and otherwise the
name between single quotes.
-/

namespace TypeGraph.Printed

/-- Whether a character can begin an identifier. -/
def beginsIdentifier (c : Char) : Bool := Unicode.isAlphabetic c || c = '_' || c = '$'

/-- Whether a character can continue an identifier. -/
def continuesIdentifier (c : Char) : Bool := Unicode.isAlphanumeric c || c = '_' || c = '$'

/-- Whether some characters are an identifier. -/
def isIdentifier : List Char → Bool
  | [] => false
  | c :: rest => beginsIdentifier c && rest.all continuesIdentifier

/-- One character of a quoted key: a single quote takes a backslash. -/
def keyChar (c : Char) : List Char := if c = '\'' then ['\\', '\''] else [c]

/-- The characters of a printed key. -/
def keyChars (name : List Char) : List Char :=
  if isIdentifier name then name else '\'' :: (name.flatMap keyChar ++ ['\''])

/-- The printed key of a property. -/
def key (name : String) : String := String.ofList (keyChars name.toList)

end TypeGraph.Printed
