import TypeGraph.Classification.Basic
import TypeGraph.Configuration.Setup
import TypeGraph.Discovery.Partition
import TypeGraph.Json.Writer

/-!
# Reports on a classification

Which roles every candidate has by the filters, and why. There is one entry for each identity, in
ascending order; it speaks of the first candidate with that identity.
-/

namespace TypeGraph

/-- What a report says of one candidate. -/
structure ReportEntry where
  name : String
  roles : List Role
  reasons : List (Role × String)

/-- A report: its entries, and what could not be read. -/
structure Report where
  entries : List ReportEntry
  failures : List LoadFailure

namespace Setup

/-- The classification of some types by the filters of a setup. -/
def classify (s : Setup) (types : List Descriptor) : Classification :=
  .ofTypes s.modelFilter.selects s.restFilter.selects types

/-- Why a type has its roles. Enums are not filtered. -/
def reasons (s : Setup) (d : Descriptor) : List (Role × String) :=
  if d.isEnum then [(.enum, d.name ++ " is an enum")]
  else [(.model, s.modelFilter.reason d), (.rest, s.restFilter.reason d)]

end Setup

namespace Report

/-- Keeps the first of neighbours with the same identity. -/
def dropRepeated : List Descriptor → List Descriptor
  | [] => []
  | d :: rest =>
    match dropRepeated rest with
    | [] => [d]
    | next :: others => if next.name = d.name then d :: others else d :: next :: others

/-- The candidates by name, the first one for each identity. -/
def sortedCandidates (types : List Descriptor) : List Descriptor :=
  dropRepeated (types.mergeSort fun a b => a.name ≤ b.name)

/-- The report on a discovery. -/
def of (s : Setup) (discovery : Discovery) : Report :=
  let classification := s.classify discovery.candidates
  { entries := (sortedCandidates discovery.candidates).map fun d =>
      { name := d.name, roles := classification.rolesOf d.name, reasons := s.reasons d }
    failures := discovery.failures }

/-! ## Forms of a report -/

/-- Some roles in words. -/
def rolesText (roles : List Role) : String :=
  if roles.isEmpty then "skipped" else ", ".intercalate (roles.map Role.name)

/-- The lines on one candidate. -/
def entryText (e : ReportEntry) : String :=
  e.name ++ ": " ++ rolesText e.roles ++ "\n" ++
    String.join (e.reasons.map fun (role, reason) => "    " ++ role.name ++ ": " ++ reason ++ "\n")

/-- A report as text. -/
def text (r : Report) : String :=
  String.join (r.entries.map entryText) ++
    String.join (r.failures.map fun f => "! " ++ f.name ++ ": " ++ f.reason.message ++ "\n")

/-- One entry as a value. -/
def entryJson (e : ReportEntry) : Json :=
  .record [("name", .text e.name), ("categories", .texts (e.roles.map Role.name)),
    ("explanations", .record (e.reasons.map fun (role, reason) => (role.name, .text reason)))]

/-- A report as a value. -/
def toJson (r : Report) : Json :=
  .record [("types", .list (r.entries.map entryJson)),
    ("failures", .list (r.failures.map fun f =>
      .record [("name", .text f.name), ("reason", .text f.reason.message)]))]

end Report

end TypeGraph
