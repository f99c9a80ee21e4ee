import TypeGraph.Toml.Scalar
import TypeGraph.Toml.Table

/-!
# Toml documents

A document is a series of statements, one to a line: headers, which open a table, and settings of keys
in the table that is open. Blanks and comments may stand around them. Lists and tables in braces may
span lines and end in a comma; their nesting is limited.
-/

namespace TypeGraph.Toml

/-- The greatest depth of nested lists and tables in braces. -/
def maxDepth : Nat := 80

/-! ## Between the words -/

/-- The rest after blanks. -/
def afterBlanks (read : List Char) : List Char := read.dropWhile isBlank

/-- The rest after blanks, comments and line ends. Nothing comes of a comment with a character that
must not stand in it. -/
def afterTrivia? (inComment : Bool) : List Char → Option (List Char)
  | [] => some []
  | '\n' :: rest => afterTrivia? false rest
  | '\r' :: '\n' :: rest => afterTrivia? false rest
  | c :: rest =>
    if inComment then (if isVisible c then afterTrivia? true rest else none)
    else if isBlank c then afterTrivia? false rest
    else if c = '#' then afterTrivia? true rest
    else some (c :: rest)

/-- The rest after the end of a line, before which only blanks and a comment may stand. -/
def afterLine? (inComment : Bool) : List Char → Option (List Char)
  | [] => some []
  | '\n' :: rest => some rest
  | '\r' :: '\n' :: rest => some rest
  | c :: rest =>
    if inComment then (if isVisible c then afterLine? true rest else none)
    else if isBlank c then afterLine? false rest
    else if c = '#' then afterLine? true rest
    else none

/-- The rest after a character. -/
def after? (c : Char) : List Char → Option (List Char)
  | d :: rest => if d = c then some rest else none
  | [] => none

/-! ## Keys -/

/-- Whether a character may stand in a bare key. -/
def isKeyChar (c : Char) : Bool := c.isAlphanum || c = '_' || c = '-'

/-- One part of a key. -/
def keyPart? (read : List Char) : Option (String × List Char) :=
  match read with
  | '"' :: _ => quotedOnLine? read
  | '\'' :: _ => quotedOnLine? read
  | _ =>
    let part := read.takeWhile isKeyChar
    if part.isEmpty then none else some (String.ofList part, read.dropWhile isKeyChar)

/-- The greatest number of parts of a key. -/
def maxParts : Nat := 80

/-- A key of at most some parts, which are divided by points, and the rest after it. -/
def keyUpTo? : Nat → List Char → Option (List String × List Char)
  | 0, _ => none
  | parts + 1, read => do
    let (part, rest) ← keyPart? read
    match afterBlanks rest with
    | '.' :: after =>
      let (others, rest) ← keyUpTo? parts (afterBlanks after)
      return (part :: others, rest)
    | _ => return ([part], rest)

/-- A key. -/
def key? (read : List Char) : Option (List String × List Char) := keyUpTo? maxParts read

/-- Sets the value of a key in a table. -/
def setKey? (key : List String) (value : Json) (entries : Entries) : Option Entries :=
  match key.getLast? with
  | none => none
  | some last => entries.setDotted? last value true key.dropLast

/-! ## Values -/

/-- The items of a list up to its closing bracket. -/
def items? (value? : Reads Json) : Nat → Reads (List Json)
  | 0, _ => none
  | fuel + 1, read => do
    match ← afterTrivia? false read with
    | ']' :: rest => return ([], rest)
    | read =>
      let (item, rest) ← value? read
      match ← afterTrivia? false rest with
      | ']' :: rest => return ([item], rest)
      | ',' :: rest =>
        let (others, rest) ← items? value? fuel rest
        return (item :: others, rest)
      | _ => none

/-- Adds the settings up to the closing brace to a table. Between braces, comments and line ends may
also stand around the sign between a key and its value. -/
def settings? (value? : Reads Json) : Nat → Entries → Reads Entries
  | 0, _, _ => none
  | fuel + 1, entries, read => do
    match ← afterTrivia? false read with
    | '\x7d' :: rest => return (entries, rest)
    | read =>
      let (key, rest) ← key? read
      let rest ← after? '=' (← afterTrivia? false rest)
      let (value, rest) ← value? (← afterTrivia? false rest)
      let entries ← setKey? key value entries
      match ← afterTrivia? false rest with
      | '\x7d' :: rest => return (entries, rest)
      | ',' :: rest => settings? value? fuel entries rest
      | _ => none

/-- A value whose lists and tables are nested up to a depth. -/
def value? : Nat → Reads Json
  | depth, read =>
    match depth, read with
    | _, '"' :: _ => (quoted? read).map fun (s, rest) => (.text s, rest)
    | _, '\'' :: _ => (quoted? read).map fun (s, rest) => (.text s, rest)
    | depth + 1, '[' :: rest =>
      (items? (value? depth) (rest.length + 1) rest).map fun (items, rest) => (.list items, rest)
    | depth + 1, '\x7b' :: rest =>
      (settings? (value? depth) (rest.length + 1) [] rest).map fun (entries, rest) =>
        (entries.toJson, rest)
    | _, read => scalar? read

/-! ## Statements -/

/-- A document as far as it is read: its tables, and the path of the one that is open. -/
structure Document where
  root : Entries := []
  current : List String := []

namespace Document

/-- Opens a table by a header. -/
def openAt? (d : Document) (key : List String) (opening : String → Entries → Option Entries) :
    Option Document := do
  let root ← Entries.modifyAt? (opening (← key.getLast?)) key.dropLast d.root
  return { root, current := key }

/-- The header of a list of tables, from its second bracket on. -/
def listHeader? (d : Document) (read : List Char) : Option (Document × List Char) := do
  let (key, rest) ← key? (afterBlanks read)
  let rest ← after? ']' (← after? ']' (afterBlanks rest))
  return (← d.openAt? key Entries.openNext?, rest)

/-- The header of a table, from its bracket on. -/
def header? (d : Document) (read : List Char) : Option (Document × List Char) := do
  let (key, rest) ← key? (afterBlanks read)
  let rest ← after? ']' (afterBlanks rest)
  return (← d.openAt? key Entries.openTable?, rest)

/-- The setting of a key. -/
def setting? (d : Document) (read : List Char) : Option (Document × List Char) := do
  let (key, rest) ← key? read
  let rest ← after? '=' (afterBlanks rest)
  let (value, rest) ← value? maxDepth (afterBlanks rest)
  let root ← Entries.modifyAt? (setKey? key value) d.current d.root
  return ({ d with root }, rest)

/-- One statement. -/
def statement? (d : Document) (read : List Char) : Option (Document × List Char) :=
  match read with
  | '[' :: '[' :: rest => d.listHeader? rest
  | '[' :: rest => d.header? rest
  | read => d.setting? read

/-- All statements; there are at most as many as characters. -/
def statements? : Nat → Document → List Char → Option Document
  | 0, _, _ => none
  | fuel + 1, d, read => do
    match ← afterTrivia? false read with
    | [] => return d
    | read =>
      let (d, rest) ← d.statement? read
      statements? fuel d (← afterLine? false rest)

end Document

/-- The characters of a text after a mark of its byte order. -/
def afterByteOrderMark : List Char → List Char
  | '\uFEFF' :: rest => rest
  | read => read

/-- The value of a text. -/
def read? (text : String) : Option Json :=
  let read := afterByteOrderMark text.toList
  (Document.statements? (read.length + 1) {} read).map fun d => d.root.toJson

end TypeGraph.Toml
