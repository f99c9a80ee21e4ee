import TypeGraph.Command.Failure
import TypeGraph.Configuration.Setup
import TypeGraph.Files

/-!
# The check of a configuration

A configuration is checked without a run: it has to be sound, and its inputs have to be there. The
summary says what a run would do.
-/

namespace TypeGraph.Command

/-- A filter in a few words. -/
def filterSummary : FilterSpec → String
  | .rejectAll => "reject all (nothing selected)"
  | .acceptAll => "accept all"
  | .typeSet names => toString names.length ++ " explicit type(s)"
  | .hasMarker kind => "types marked " ++ kind.label
  | .subtypeOf base => "subtypes of " ++ base
  | .nameContains text => "names containing '" ++ text ++ "'"
  | .pattern text => "names matching /" ++ text ++ "/"
  | .and filters => "all of " ++ toString filters.length ++ " filters"
  | .or filters => "any of " ++ toString filters.length ++ " filters"
  | .not _ => "negated filter"

/-- Whether something is there, in a word. -/
def onOff {α : Type} (a : Option α) : String := if a.isSome then "on" else "off"

/-- The lines on a sound configuration. -/
def summary (c : Configuration) : List String :=
  ["✓ Packages: " ++ ", ".intercalate c.packages,
   "✓ Inputs: " ++ toString c.inputs.length,
   "✓ Model filter: " ++ filterSummary c.modelFilter,
   "✓ Rest filter: " ++ filterSummary c.restFilter,
   "✓ Converters: model=" ++ onOff c.model ++ ", rest=" ++ onOff c.rest,
   "✓ Custom types: " ++ toString c.customTypes.size,
   "",
   "Configuration is valid!"]

/-- The lines of a check, when it does not fail. -/
def check (files : Files) (c : Configuration) : Except Failure (List String) := do
  doing "Invalid configuration" c.validate
  match c.inputs.find? fun path => !files.isFile path with
  | some path => throw (.absentInput path)
  | none => return summary c

end TypeGraph.Command
