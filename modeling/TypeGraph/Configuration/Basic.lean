import TypeGraph.Conversion.Nullability
import TypeGraph.Filter.Ready
import TypeGraph.Path
import TypeGraph.Target.TypeExpr

/-!
# Configurations

What a run is told: where types come from, which of them count as models and as types with endpoints,
how they are converted, and where the result goes. Everything has a default, and by the defaults
nothing is selected.
-/

namespace TypeGraph

/-- How models are converted. -/
structure ModelOptions where
  /-- Whether members that are left out of serialised values are kept. -/
  includeIgnored : Bool := false

/-- How types with endpoints are converted. -/
structure RestOptions where
  /-- The generic type around the result of every endpoint. -/
  wrapper : String := "Promise"
  /-- The module that exports it; without one it is global. -/
  wrapperModule : Option String := none

/-- A target chosen for a source type. -/
structure CustomTarget where
  /-- A keyword, or the name of a global or exported type; `[]` at the end makes it an array. -/
  name : String
  /-- The module that exports it. -/
  module : Option String := none

/-- The target as a type. -/
def CustomTarget.type (t : CustomTarget) : TypeExpr := .ofText t.name t.module

/-- What a run is told. -/
structure Configuration where
  /-- The packages whose types are candidates. -/
  packages : List String := []
  /-- The manifests to read. -/
  inputs : List String := []
  outputDirectory : String := "generated"
  /-- How many segments of a package make up the name of a module at the top. -/
  packageDepth : Nat := 2
  /-- The module of all declarations, if there is to be only one. -/
  singleModule : Option String := none
  logLevel : String := "info"
  nullability : Nullability := .standard
  modelFilter : FilterSpec := .rejectAll
  restFilter : FilterSpec := .rejectAll
  /-- Without options models cannot be converted. -/
  model : Option ModelOptions := none
  /-- Without options types with endpoints cannot be converted. -/
  rest : Option RestOptions := none
  /-- The targets chosen for source identities. -/
  customTypes : NameMap CustomTarget := ∅

/-- The configuration with its paths seen from a directory. -/
def Configuration.resolvePaths (c : Configuration) (base : String) : Configuration :=
  { c with
    inputs := c.inputs.map (Path.join base)
    outputDirectory := Path.join base c.outputDirectory }

end TypeGraph
