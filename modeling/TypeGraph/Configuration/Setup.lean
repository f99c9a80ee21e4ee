import TypeGraph.Configuration.Basic
import TypeGraph.Conversion.Converter
import TypeGraph.Conversion.Mapping
import TypeGraph.Target.ModuleTree

/-!
# The setup of a run

A configuration is checked as a whole, in a fixed order, before a run starts; from a sound one the
filters, converters and targets of the run are made.
-/

namespace TypeGraph

/-- What a run works with. -/
structure Setup where
  modelFilter : ReadyFilter
  restFilter : ReadyFilter
  nullability : Nullability
  placement : Placement
  converters : Converters
  custom : CustomTypes

namespace Configuration

/-! ## Soundness -/

/-- The levels of the log. -/
def logLevels : List String := ["trace", "debug", "info", "warn", "error", "off"]

/-- What is wrong with a package, if anything. -/
def packageFault? (c : Configuration) : Option ConfigFault :=
  if c.packages.isEmpty then some .noPackages
  else (c.packages.find? Text.isBlank).map .blankPackage

/-- What is wrong with the layout of modules, if anything. -/
def layoutFault? (c : Configuration) : Option ConfigFault :=
  if c.packageDepth = 0 then some .zeroDepth
  else if c.singleModule.any Text.isBlank then some .blankSingleModule
  else none

/-- What is wrong with the level of the log, if anything. Case does not matter. -/
def logFault? (c : Configuration) : Option ConfigFault :=
  let level := String.ofList (c.logLevel.toList.map Char.toLower)
  if logLevels.contains level then none else some (.unknownLogLevel c.logLevel)

/-- What is wrong with the wrapper of results, if anything. -/
def wrapperFault? (c : Configuration) : Option ConfigFault :=
  if c.rest.any fun o => Text.isBlank o.wrapper then some .blankWrapper else none

/-- What is wrong with a chosen target, if anything. -/
def targetFault? (identity : String) (t : CustomTarget) : Option ConfigFault :=
  if identity = "" then some .emptyIdentity
  else if Text.isBlank t.name then some (.blankTarget identity)
  else none

/-- What is wrong with the chosen targets, if anything. -/
def customFault? (c : Configuration) : Option ConfigFault :=
  c.customTypes.entries.findSome? fun (identity, t) => targetFault? identity t

/-- Fails with a fault if there is one. -/
def refuse : Option ConfigFault → Except Error Unit
  | none => .ok ()
  | some fault => .error (.config fault)

/-- Checks a configuration. Filters are tried between the settings and the converters. -/
def validate (c : Configuration) : Except Error Unit := do
  refuse (c.packageFault? <|> c.layoutFault? <|> c.logFault?)
  let _ ← c.modelFilter.ready
  let _ ← c.restFilter.ready
  refuse (c.wrapperFault? <|> c.customFault?)

/-! ## Making the setup -/

/-- Where declarations are put. -/
def placement (c : Configuration) : Placement :=
  match c.singleModule with
  | some name => .single name
  | none => .byDepth c.packageDepth

/-- The converters of a configuration. -/
def converters (c : Configuration) : Converters :=
  { model := c.model.map fun o => .model o.includeIgnored
    rest := c.rest.map fun o => .rest (.ofText o.wrapper o.wrapperModule) }

/-- The chosen targets as types. -/
def custom (c : Configuration) : CustomTypes := c.customTypes.map CustomTarget.type

/-- The setup of a sound configuration. -/
def setup (c : Configuration) : Except Error Setup := do
  c.validate
  return {
    modelFilter := ← c.modelFilter.ready
    restFilter := ← c.restFilter.ready
    nullability := c.nullability
    placement := c.placement
    converters := c.converters
    custom := c.custom }

end Configuration

end TypeGraph
