import TypeGraph.Json.Basic
import TypeGraph.Json.Token

/-!
# Reading Json texts

A reader walks over the tokens with the lists and objects that are still open on a stack. Nesting is
limited to 127 levels. Of entries with the same key the last one counts.

A document of which only some fields are wanted is read with `Json.readFields?`: its other fields are
checked for their form alone, and a wanted field may be given once.
-/

namespace TypeGraph.Json

/-- The greatest depth of nesting. -/
def maxDepth : Nat := 127

/-- A list or object that is still open. Items are kept last one first; an object with a key waits
for the value of that key. -/
inductive Frame where
  | list (items : List Json)
  | object (entries : List (String × Json)) (key : Option String)

/-- What the reader expects next. -/
inductive Expected where
  | value
  | itemOrEnd
  | key
  | keyOrEnd
  | colon
  | separator
  | nothing

/-- The state of a reader: open frames, innermost first, what comes next, and the value read last. -/
structure Reader where
  frames : List Frame
  expected : Expected
  result : Json

/-- Which fields of the outermost object are wanted; all of them when `none`. -/
abbrev Wanted := Option (List String)

namespace Reader

/-- Before the first token. -/
def start : Reader := { frames := [], expected := .value, result := .null }

/-- Whether the value at hand belongs to a field that nobody wants. -/
def unwanted (wanted : Wanted) (r : Reader) : Bool :=
  match wanted, r.frames.getLast? with
  | some names, some (.object _ (some key)) => !names.contains key
  | _, _ => false

/-- Takes a completed value: into the innermost open frame, or as the result. -/
def complete (value : Json) (r : Reader) : Reader :=
  match r.frames with
  | [] => { r with expected := .nothing, result := value }
  | .list items :: outer =>
    { r with frames := .list (value :: items) :: outer, expected := .separator }
  | .object entries (some key) :: outer =>
    { r with frames := .object (insertEntry key value entries) none :: outer,
             expected := .separator }
  | .object entries none :: outer =>
    { r with frames := .object entries none :: outer, expected := .separator }

/-- Opens a frame, unless it would be nested too deep; unwanted values may nest at will. -/
def open? (wanted : Wanted) (frame : Frame) (next : Expected) (r : Reader) : Option Reader :=
  if r.frames.length < maxDepth || unwanted wanted r then
    some { r with frames := frame :: r.frames, expected := next }
  else none

/-- A number as value. -/
def numberValue? (literal : Number.Literal) : Option Json :=
  match literal.int? with
  | some n => some (.int n)
  | none => literal.float?.map .float

/-- The value that a token begins or is. -/
def value? (wanted : Wanted) (token : Token) (r : Reader) : Option Reader :=
  match token with
  | .openList => open? wanted (.list []) .itemOrEnd r
  | .openObject => open? wanted (.object [] none) .keyOrEnd r
  | .null => some (complete .null r)
  | .bool b => some (complete (.bool b) r)
  | .number literal =>
    if unwanted wanted r then some (complete .null r)
    else (numberValue? literal).map (complete · r)
  | .text pieces =>
    if unwanted wanted r then some (complete .null r)
    else (pieceText? pieces).map fun s => complete (.text (String.ofList s)) r
  | _ => none

/-- The key of an entry. A wanted field that was given before is refused. -/
def key? (wanted : Wanted) (pieces : List Piece) (r : Reader) : Option Reader :=
  match r.frames with
  | .object entries _ :: outer =>
    let name :=
      if unwanted wanted { r with frames := outer } then some [] else pieceText? pieces
    name.bind fun name =>
      let name := String.ofList name
      let repeated := match wanted with
        | some names => outer.isEmpty && names.contains name && entries.any (·.1 == name)
        | none => false
      if repeated then none
      else some { r with frames := .object entries (some name) :: outer, expected := .colon }
  | _ => none

/-- Closes the innermost list. -/
def closeList? (r : Reader) : Option Reader :=
  match r.frames with
  | .list items :: outer => some (complete (.list items.reverse) { r with frames := outer })
  | _ => none

/-- Closes the innermost object. -/
def closeObject? (r : Reader) : Option Reader :=
  match r.frames with
  | .object entries _ :: outer => some (complete (.object entries) { r with frames := outer })
  | _ => none

/-- One token. -/
def step? (wanted : Wanted) (r : Reader) (token : Token) : Option Reader :=
  match r.expected, token with
  | .value, token => value? wanted token r
  | .itemOrEnd, .closeList => closeList? r
  | .itemOrEnd, token => value? wanted token r
  | .key, .text pieces => key? wanted pieces r
  | .keyOrEnd, .text pieces => key? wanted pieces r
  | .keyOrEnd, .closeObject => closeObject? r
  | .colon, .colon => some { r with expected := .value }
  | .separator, .comma =>
    match r.frames with
    | .list _ :: _ => some { r with expected := .value }
    | .object _ _ :: _ => some { r with expected := .key }
    | [] => none
  | .separator, .closeList => closeList? r
  | .separator, .closeObject => closeObject? r
  | _, _ => none

/-- The value, when exactly one was read. -/
def result? (r : Reader) : Option Json :=
  match r.expected with
  | .nothing => some r.result
  | _ => none

end Reader

/-- The value of a text of which some fields are wanted. -/
def readWanted? (wanted : Wanted) (text : String) : Option Json := do
  let tokens ← tokens? text
  let reader ← tokens.foldlM (Reader.step? wanted) Reader.start
  reader.result?

/-- The value of a text. -/
def read? (text : String) : Option Json := readWanted? none text

/-- The value of a text, with the fields of the outermost object limited to the wanted ones. -/
def readFields? (names : List String) (text : String) : Option Json := readWanted? (some names) text

end TypeGraph.Json
