/-!
# Json values

Values of the data format in which type manifests, configurations and reports are written. Numbers
keep what the reader saw: an integer, or a number with a fraction or exponent. The entries of an
object are in ascending key order, one per key: `Json.record` and the reader build them so.
-/

namespace TypeGraph

/-- A value of the data format. -/
inductive Json where
  | null
  | bool (value : Bool)
  | int (value : Int)
  | float (value : Float)
  | text (value : String)
  | list (items : List Json)
  | object (entries : List (String × Json))

namespace Json

instance : Inhabited Json := ⟨.null⟩

/-- Puts an entry at its place in ascending order; an entry with the same key is replaced. -/
def insertEntry (key : String) (value : Json) : List (String × Json) → List (String × Json)
  | [] => [(key, value)]
  | (k, v) :: rest =>
    if key < k then (key, value) :: (k, v) :: rest
    else if key = k then (key, value) :: rest
    else (k, v) :: insertEntry key value rest

/-- The entries in ascending key order; of entries with the same key the last one counts. -/
def inKeyOrder (entries : List (String × Json)) : List (String × Json) :=
  entries.foldl (fun sorted (k, v) => insertEntry k v sorted) []

/-- An object from its fields; absent fields are left out. -/
def recordOf (fields : List (String × Option Json)) : Json :=
  .object (inKeyOrder (fields.filterMap fun (k, v) => v.map fun v => (k, v)))

/-- An object from its fields. -/
def record (fields : List (String × Json)) : Json := .object (inKeyOrder fields)

/-- A list of texts. -/
def texts (items : List String) : Json := .list (items.map .text)

/-- A value or `null`. -/
def orNull {α : Type} (write : α → Json) : Option α → Json
  | none => .null
  | some a => write a

/-- A list written as a field that is left out when empty. -/
def unlessEmpty {α : Type} (write : α → Json) (items : List α) : Option Json :=
  if items.isEmpty then none else some (.list (items.map write))

/-- The entry of an object with a given key. -/
def get? (key : String) : Json → Option Json
  | .object entries => (entries.find? (·.1 == key)).map (·.2)
  | _ => none

/-- The text of a text value. -/
def text? : Json → Option String
  | .text s => some s
  | _ => none

/-- The items of a list value. -/
def items? : Json → Option (List Json)
  | .list items => some items
  | _ => none

/-- The entries of an object. -/
def entries? : Json → Option (List (String × Json))
  | .object entries => some entries
  | _ => none

/-- The value of a boolean. -/
def bool? : Json → Option Bool
  | .bool b => some b
  | _ => none

/-- An integer that is not negative. -/
def natural? : Json → Option Nat
  | .int (.ofNat n) => some n
  | _ => none

end Json

end TypeGraph
