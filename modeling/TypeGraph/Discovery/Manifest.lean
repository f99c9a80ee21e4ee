import TypeGraph.Error
import TypeGraph.Json.Reader
import TypeGraph.Source.Reading

/-!
# Type manifests

A manifest is a document with a format version and a list of types. The document has to be sound as a
whole; its entries are read one by one, and an entry that cannot be read is reported and left out.
-/

namespace TypeGraph

/-- An entry that could not be read. -/
structure LoadFailure where
  /-- The name of the type if it has one, otherwise where the entry is. -/
  name : String
  reason : Json.Fault

/-- What a manifest holds. -/
structure Manifest where
  types : List Descriptor := []
  failures : List LoadFailure := []

namespace Manifest

/-- The format version of the manifests that can be read. -/
def supportedVersion : Nat := 1

/-- The greatest number that can be a format version. -/
def maxVersion : Nat := Nat.pow 2 32 - 1

/-- The version and the entries of a document. Both may be left out, and the document may be a list
of the two. -/
def parts? : Json → Option (Option Json × Option Json)
  | .object entries => some (Json.get? "format_version" (.object entries),
      Json.get? "types" (.object entries))
  | .list [] => some (none, none)
  | .list [version] => some (some version, none)
  | .list [version, types] => some (some version, some types)
  | _ => none

/-- A format version. -/
def version? : Option Json → Option Nat
  | none => some supportedVersion
  | some (.int (.ofNat n)) => if n ≤ maxVersion then some n else none
  | some _ => none

/-- The entries of a manifest. -/
def entries? : Option Json → Option (List Json)
  | none => some []
  | some (.list items) => some items
  | some _ => none

/-- The version and the entries of a text. -/
def document? (text : String) : Option (Nat × List Json) := do
  let document ← Json.readFields? ["format_version", "types"] text
  let (version, types) ← parts? document
  return (← version? version, ← entries? types)

/-- What a failure calls the entry at a position. -/
def entryName (origin : String) (position : Nat) (entry : Json) : String :=
  match (entry.get? "name").bind Json.text? with
  | some name => name
  | none => origin ++ "#" ++ toString position

/-- The entries of a manifest from a position on, read one by one. -/
def ofEntries (origin : String) : Nat → List Json → Manifest
  | _, [] => {}
  | position, entry :: rest =>
    let later := ofEntries origin (position + 1) rest
    match Descriptor.ofJson entry with
    | .ok d => { later with types := d :: later.types }
    | .error reason =>
      { later with
        failures := { name := entryName origin position entry, reason } :: later.failures }

/-- The manifest in a text that was found at some origin. -/
def ofText (origin text : String) : Except Error Manifest :=
  match document? text with
  | none => .error (.malformedManifest origin)
  | some (version, entries) =>
    if version = supportedVersion then .ok (ofEntries origin 0 entries)
    else .error (.unsupportedVersion version origin supportedVersion)

/-- Two manifests one after the other. -/
def append (a b : Manifest) : Manifest :=
  { types := a.types ++ b.types, failures := a.failures ++ b.failures }

end Manifest

end TypeGraph
