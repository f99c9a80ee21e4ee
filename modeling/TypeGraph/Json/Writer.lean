import TypeGraph.Json.Basic
import TypeGraph.Json.Number

/-!
# Writing Json texts

A value on one line without blanks, or over several lines with two blanks for each level.
-/

namespace TypeGraph.Json

/-- One character of a written text. -/
def writeChar (c : Char) : List Char :=
  match c with
  | '"' => ['\\', '"']
  | '\\' => ['\\', '\\']
  | '\n' => ['\\', 'n']
  | '\r' => ['\\', 'r']
  | '\t' => ['\\', 't']
  | '\x08' => ['\\', 'b']
  | '\x0c' => ['\\', 'f']
  | c =>
    if c.toNat < 0x20 then
      let digits := Nat.toDigits 16 c.toNat
      "\\u".toList ++ List.replicate (4 - digits.length) '0' ++ digits
    else [c]

/-- A text between double quotes. -/
def writeText (s : String) : String :=
  "\"" ++ String.ofList (s.toList.flatMap writeChar) ++ "\""

/-- An integer, boolean, number or text. -/
def writeScalar : Json → String
  | .bool true => "true"
  | .bool false => "false"
  | .int n => toString n
  | .float x => if x.isFinite then Number.floatText x else "null"
  | .text s => writeText s
  | _ => "null"

/-! ## On one line -/

mutual

/-- A value without blanks. -/
def compact : Json → String
  | .list items => "[" ++ String.intercalate "," (compactItems items) ++ "]"
  | .object entries => "\x7b" ++ String.intercalate "," (compactEntries entries) ++ "\x7d"
  | scalar => writeScalar scalar

/-- The items of a list, each without blanks. -/
def compactItems : List Json → List String
  | [] => []
  | v :: rest => compact v :: compactItems rest

/-- The entries of an object, each without blanks. -/
def compactEntries : List (String × Json) → List String
  | [] => []
  | (k, v) :: rest => (writeText k ++ ":" ++ compact v) :: compactEntries rest

end

/-! ## Over several lines -/

/-- Lines between two brackets, each after the blanks of its level; nothing between them if there
are no lines. -/
def block (opening closing : String) (level : Nat) (lines : List String) : String :=
  if lines.isEmpty then opening ++ closing
  else
    let indent (n : Nat) := "\n" ++ String.ofList (List.replicate (2 * n) ' ')
    opening ++ indent (level + 1) ++ String.intercalate ("," ++ indent (level + 1)) lines ++
      indent level ++ closing

mutual

/-- A value at a level of nesting. -/
def prettyAt (level : Nat) : Json → String
  | .list items => block "[" "]" level (prettyItems (level + 1) items)
  | .object entries => block "\x7b" "\x7d" level (prettyEntries (level + 1) entries)
  | scalar => writeScalar scalar

/-- The items of a list at a level. -/
def prettyItems (level : Nat) : List Json → List String
  | [] => []
  | v :: rest => prettyAt level v :: prettyItems level rest

/-- The entries of an object at a level. -/
def prettyEntries (level : Nat) : List (String × Json) → List String
  | [] => []
  | (k, v) :: rest => (writeText k ++ ": " ++ prettyAt level v) :: prettyEntries level rest

end

/-- A value over several lines. -/
def pretty (v : Json) : String := prettyAt 0 v

end TypeGraph.Json
