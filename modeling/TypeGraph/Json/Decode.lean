import TypeGraph.Json.Fault

/-!
# Reading values into domain types

A decoder turns a value into a domain type or names the first fault. A record is given as an object
or as a list of its fields in order of declaration; a tagged value is a record whose tag tells which
one it is. Fields are visited as they are written, an object's in key order: the first field with a
fault decides, and missing fields are reported only when all fields that are there are sound.

Decoders of nested types get the parts of a value as `Part`s, which carry the fact that a part is
smaller than the whole.
-/

namespace TypeGraph.Json

/-- The outcome of a decoder. -/
abbrev Decoded (α : Type) := Except Fault α

/-- A value inside another one. -/
def Part (whole : Json) : Type := { part : Json // sizeOf part < sizeOf whole }

/-! ## Scalars -/

def asText : Json → Decoded String
  | .text s => .ok s
  | v => .error (.wrongType v "a string")

def asBool : Json → Decoded Bool
  | .bool b => .ok b
  | v => .error (.wrongType v "a boolean")

/-- Whether an integer fits 64 bits, signed or unsigned. -/
def isNarrow (n : Int) : Bool := -(Nat.pow 2 63 : Int) ≤ n && n < Nat.pow 2 64

mutual

/-- Whether all integers in a value fit 64 bits. -/
def narrow : Json → Bool
  | .int n => isNarrow n
  | .list items => narrowItems items
  | .object entries => narrowEntries entries
  | _ => true

/-- Whether all integers in some values fit 64 bits. -/
def narrowItems : List Json → Bool
  | [] => true
  | item :: rest => item.narrow && narrowItems rest

/-- Whether all integers in the values of some entries fit 64 bits. -/
def narrowEntries : List (String × Json) → Bool
  | [] => true
  | (_, value) :: rest => value.narrow && narrowEntries rest

end

/-- A natural number of machine size. -/
def asNatural : Json → Decoded Nat
  | .int (.ofNat n) => if isNarrow n then .ok n else .error (.wrongValue (.int n) "usize")
  | .int n => .error (.wrongValue (.int n) "usize")
  | v => .error (.wrongType v "usize")

def asPath : Json → Decoded String
  | .text s => .ok s
  | v => .error (.wrongType v "path string")

/-- A value that may be `null`. -/
def asOption {α : Type} (decode : Json → Decoded α) : Json → Decoded (Option α)
  | .null => .ok none
  | v => (decode v).map some

/-! ## Lists and maps -/

/-- The items of a list as parts of it. -/
def itemParts (items : List Json) : List (Part (.list items)) :=
  items.attach.map fun ⟨v, h⟩ => ⟨v, by
    have := List.sizeOf_lt_of_mem h
    simp only [Json.list.sizeOf_spec]
    omega⟩

theorem sizeOf_entry_lt {entries : List (String × Json)} {entry : String × Json}
    (h : entry ∈ entries) : sizeOf entry.2 < sizeOf (Json.object entries) := by
  have := List.sizeOf_lt_of_mem h
  obtain ⟨k, v⟩ := entry
  simp only [Json.object.sizeOf_spec, Prod.mk.sizeOf_spec] at *
  omega

/-- The entries of an object as parts of it. -/
def entryParts (entries : List (String × Json)) : List (String × Part (.object entries)) :=
  entries.attach.map fun ⟨entry, h⟩ => (entry.1, ⟨entry.2, sizeOf_entry_lt h⟩)

/-- A list, item by item. -/
def asList {α : Type} (v : Json) (decode : Part v → Decoded α) : Decoded (List α) :=
  match v with
  | .list items => (itemParts items).mapM decode
  | v => .error (.wrongType v "a sequence")

/-- A list of values without parts of interest. -/
def listOf {α : Type} (decode : Json → Decoded α) (v : Json) : Decoded (List α) :=
  asList v fun w => decode w.1

/-- An object whose keys are data. -/
def asMap {α : Type} (decode : Json → Decoded α) : Json → Decoded (List (String × α))
  | .object entries => entries.mapM fun (k, v) => (decode v).map fun a => (k, a)
  | v => .error (.wrongType v "a map")

/-! ## Variants -/

/-- A variant by name: the alternatives are listed with their names. -/
def variantNamed {α : Type} (known : List (String × α)) (name : String) : Decoded α :=
  match known.find? (·.1 == name) with
  | some (_, a) => .ok a
  | none => .error (.unknownVariant name (known.map (·.1)))

/-- A variant given by its name alone, or as the only key of an object with its value. -/
def asVariant {α : Type} (known : List (String × α)) : Json → Decoded (α × Option Json)
  | .text name => (variantNamed known name).map fun a => (a, none)
  | .object [(name, value)] => (variantNamed known name).map fun a => (a, some value)
  | .object entries => .error (.wrongValue (.object entries) "map with a single key")
  | v => .error (.wrongType v "string or map")

/-- How strictly a value is read. -/
inductive Manner where
  /-- A value of its own. -/
  | plain
  /-- A value inside a tagged one. -/
  | tagged
  /-- A value of a document that has no `null`. -/
  | withoutNull
  deriving DecidableEq

/-- How strictly a value inside a tagged one is read. -/
def Manner.inTagged : Manner → Manner
  | .withoutNull => .withoutNull
  | _ => .tagged

/-- Whether a value is as good as none. -/
def isIdle : Manner → Json → Bool
  | .plain, .null => true
  | .tagged, .null => true
  | .tagged, .object [] => true
  | .withoutNull, .object [] => true
  | .withoutNull, .list [] => true
  | _, _ => false

/-- A variant without a value, or with one that is as good as none. -/
def asName {α : Type} (manner : Manner) (known : List (String × α)) (v : Json) : Decoded α := do
  match ← asVariant known v with
  | (a, none) => return a
  | (a, some w) => if isIdle manner w then return a else throw (.wrongType w "unit")

/-! ## Records -/

/-- The fields of a record as they are visited, the fault of a missing field, and the fault of
surplus items if there are any. -/
structure Form (v : Json) where
  slots : List (String × Part v)
  missing : String → Fault
  surplus : Option Fault

/-- The fields of a record or tagged value, by name or in order. -/
inductive Content (v : Json) where
  | entries (parts : List (String × Part v))
  | items (parts : List (Part v))

/-- A count with its noun. -/
def counted (n : Nat) (noun : String) : String :=
  toString n ++ " " ++ noun ++ (if n = 1 then "" else "s")

/-- The form of a record with the given fields. `surplus` words what is wrong with further items. -/
def Content.form {v : Json} (content : Content v) (expected : String) (fields : List String)
    (surplus : String) : Form v :=
  match content with
  | .entries parts => { slots := parts, missing := .missingField, surplus := none }
  | .items parts =>
    { slots := fields.zip parts
      missing := fun name =>
        .wrongLength (fields.idxOf name) (expected ++ " with " ++ counted fields.length "element")
      surplus :=
        if parts.length > fields.length then some (.wrongLength parts.length surplus) else none }

/-- A record of a named type. Surplus items of a list do not matter where there is no `null`. -/
def asRecord (manner : Manner) (type : String) (fields : List String) (v : Json) :
    Decoded (Form v) :=
  let expected := "struct " ++ type
  let surplus := "fewer elements in array"
  match v with
  | .object entries =>
    .ok ((Content.entries (entryParts entries)).form expected fields surplus)
  | .list items =>
    let form := (Content.items (itemParts items)).form expected fields surplus
    .ok (if manner = .withoutNull then { form with surplus := none } else form)
  | v => .error (.wrongType v expected)

/-- One field of a record: where it was visited and what was read there. -/
inductive Slot (α : Type) where
  | absent (name : String)
  | present (position : Nat) (value : Decoded α)

/-- The first field with a name, and its position. -/
def locate {v : Json} (name : String) : List (String × Part v) → Nat → Option (Nat × Part v)
  | [], _ => none
  | (key, part) :: rest, position =>
    if key = name then some (position, part) else locate name rest (position + 1)

namespace Slot

/-- The fault of a field that is there, with its position. -/
def fault? {α : Type} : Slot α → Option (Nat × Fault)
  | .present position (.error fault) => some (position, fault)
  | _ => none

/-- The value of a field that must be there. -/
def required {v : Json} {α : Type} (form : Form v) : Slot α → Decoded α
  | .absent name => .error (form.missing name)
  | .present _ value => value

/-- The value of a field that may be missing. -/
def orElse {α : Type} (fallback : α) : Slot α → Decoded α
  | .absent _ => .ok fallback
  | .present _ value => value

end Slot

/-- The fault at the least position. -/
def firstFault : List (Option (Nat × Fault)) → Option (Nat × Fault)
  | [] => none
  | none :: rest => firstFault rest
  | some (position, fault) :: rest =>
    match firstFault rest with
    | none => some (position, fault)
    | some (other, otherFault) =>
      if position ≤ other then some (position, fault) else some (other, otherFault)

namespace Form

/-- Reads one field. -/
def read {v : Json} {α : Type} (form : Form v) (name : String) (decode : Part v → Decoded α) :
    Slot α :=
  match locate name form.slots 0 with
  | none => .absent name
  | some (position, part) => .present position (decode part)

/-- Reads one field by a decoder that needs no parts. -/
def get {v : Json} {α : Type} (form : Form v) (name : String) (decode : Json → Decoded α) :
    Slot α :=
  form.read name fun w => decode w.1

/-- Fails with the first of the faults found, or when there are surplus items. -/
def settle {v : Json} (form : Form v) (faults : List (Option (Nat × Fault))) : Decoded Unit :=
  match firstFault faults, form.surplus with
  | some (_, fault), _ => .error fault
  | none, some fault => .error fault
  | none, none => .ok ()

end Form

/-! ## Tagged values -/

/-- A value that starts with a tag: its label, and the fields besides the tag. -/
structure Tagged (v : Json) where
  label : Part v
  content : Content v

/-- A value of a type whose variants are told by a tag: the first item of a list, or a field. -/
def asTagged (tag type : String) (v : Json) : Decoded (Tagged v) :=
  match v with
  | .object entries =>
    let parts := entryParts entries
    match parts.find? (·.1 == tag) with
    | none => .error (.missingField tag)
    | some (_, label) => .ok { label, content := .entries (parts.filter (·.1 != tag)) }
  | .list items =>
    match itemParts items with
    | [] => .error (.missingField tag)
    | label :: rest => .ok { label, content := .items rest }
  | v => .error (.wrongType v ("internally tagged enum " ++ type))

namespace Tagged

/-- The variant that the tag names. Inside a tagged value the tag may be the position of the variant. -/
def variant {v : Json} {α : Type} (manner : Manner) (known : List (String × α)) (t : Tagged v) :
    Decoded α :=
  match manner, t.label.1 with
  | _, .text name => variantNamed known name
  | .tagged, .int (.ofNat n) =>
    match known[n]? with
    | some (_, a) => .ok a
    | none =>
      .error (.wrongValue (.int n) ("variant index 0 <= i < " ++ toString known.length))
  | _, w => .error (.wrongType w "variant identifier")

/-- The form of a variant with the given fields. -/
def form {v : Json} (t : Tagged v) (variant : String) (fields : List String) : Form v :=
  t.content.form ("struct variant " ++ variant) fields
    (counted fields.length "element" ++ " in sequence")

end Tagged

end TypeGraph.Json
