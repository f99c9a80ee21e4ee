import TypeGraph.Json.Basic

/-!
# Tables of Toml

A document builds its tables piece by piece, and each table may be built in one way only. A table that
a header names is complete after its section; one that dotted keys make can be extended by dotted
keys; one that exists only because a header names a table inside it can still be named itself. Values,
among them lists and tables in braces, are never extended.
-/

namespace TypeGraph.Toml

/-- How a table came about. -/
inductive Origin where
  /-- A header named it. -/
  | header
  /-- A header named a table inside it. -/
  | enclosing
  /-- A dotted key went through it. -/
  | dotted
  deriving DecidableEq

/-- What stands under a key. -/
inductive Node where
  | value (value : Json)
  | table (origin : Origin) (entries : List (String × Node))
  /-- Tables one after the other; headers extend the last one. -/
  | tables (earlier : List Json) (last : List (String × Node))

/-- The entries of a table. -/
abbrev Entries := List (String × Node)

namespace Entries

/-- What stands under a key. -/
def find? (key : String) (entries : Entries) : Option Node :=
  (List.find? (·.1 == key) entries).map (·.2)

/-- Puts something under a key, in place of what stands there. -/
def put (key : String) (node : Node) (entries : Entries) : Entries :=
  List.filter (·.1 != key) entries ++ [(key, node)]

end Entries

mutual

/-- What stands under a key as a value. -/
def Node.toJson : Node → Json
  | .value v => v
  | .table _ entries => .record (Node.entriesToJson entries)
  | .tables earlier last => .list (earlier ++ [.record (Node.entriesToJson last)])

/-- The entries of a table as values. -/
def Node.entriesToJson : List (String × Node) → List (String × Json)
  | [] => []
  | (key, node) :: rest => (key, node.toJson) :: Node.entriesToJson rest

end

namespace Entries

/-- A table as a value. -/
def toJson (entries : Entries) : Json := .record (Node.entriesToJson entries)

/-- Changes the table that a header path leads to. Tables on the way are made where they are missing,
and lists of tables are entered at their last one. -/
def modifyAt? (f : Entries → Option Entries) : List String → Entries → Option Entries
  | [], entries => f entries
  | key :: path, entries =>
    match find? key entries with
    | none => (modifyAt? f path []).map fun es => put key (.table .enclosing es) entries
    | some (.table origin es) =>
      (modifyAt? f path es).map fun es => put key (.table origin es) entries
    | some (.tables earlier last) =>
      (modifyAt? f path last).map fun es => put key (.tables earlier es) entries
    | some (.value _) => none

/-- Opens the table that a header names. -/
def openTable? (key : String) (entries : Entries) : Option Entries :=
  match find? key entries with
  | none => some (put key (.table .header []) entries)
  | some (.table .enclosing es) => some (put key (.table .header es) entries)
  | some _ => none

/-- Opens the next table of a list of tables. -/
def openNext? (key : String) (entries : Entries) : Option Entries :=
  match find? key entries with
  | none => some (put key (.tables [] []) entries)
  | some (.tables earlier last) => some (put key (.tables (earlier ++ [toJson last]) []) entries)
  | some _ => none

/-- Sets the value of a key that has none. -/
def set? (key : String) (value : Json) (entries : Entries) : Option Entries :=
  match find? key entries with
  | none => some (put key (.value value) entries)
  | some _ => none

/-- Sets the value of a dotted key; `fits` tells whether the table at hand can take the last part. -/
def setDotted? (last : String) (value : Json) (fits : Bool) :
    List String → Entries → Option Entries
  | [], entries => if fits then set? last value entries else none
  | key :: path, entries =>
    match find? key entries with
    | none =>
      (setDotted? last value true path []).map fun es => put key (.table .dotted es) entries
    | some (.table .header _) => none
    | some (.table origin es) =>
      (setDotted? last value (origin = .dotted) path es).map fun es =>
        put key (.table origin es) entries
    | some (.tables earlier es) =>
      (setDotted? last value false path es).map fun es => put key (.tables earlier es) entries
    | some (.value _) => none

end Entries

end TypeGraph.Toml
