import TypeGraph.Json.Fault
import TypeGraph.Role
import TypeGraph.Text.Escaped

/-!
# Errors

The causes for which a run fails as a whole, with their wording and their exit status. A single type
that cannot be read does not fail a run: it is reported and left out.
-/

namespace TypeGraph

/-- What is wrong with a configuration. -/
inductive ConfigFault where
  | noPackages
  | blankPackage (package : String)
  | zeroDepth
  | blankSingleModule
  | unknownLogLevel (level : String)
  | blankWrapper
  | emptyIdentity
  | blankTarget (identity : String)
  | noManifest
  /-- The file is not a configuration; its own wording follows on further lines. -/
  | malformed

/-- Why a pattern cannot be used. -/
inductive PatternFault where
  /-- It does not follow the grammar; the details follow on further lines. -/
  | grammar
  /-- Its compiled form would take more than the allowed number of bytes. -/
  | tooLarge (limit : Nat)
  deriving DecidableEq

/-- Why a run fails. -/
inductive Error where
  /-- Types of a role were found, but nothing converts them. -/
  | missingConverter (role : Role)
  /-- A manifest has a format version that is not supported. -/
  | unsupportedVersion (version : Nat) (origin : String) (supported : Nat)
  /-- A manifest is not a manifest. -/
  | malformedManifest (origin : String)
  /-- A file is not there. -/
  | absentFile (path : String)
  /-- A value is not of the form that was asked for. -/
  | malformedValue (fault : Json.Fault)
  | config (fault : ConfigFault)
  /-- A filter holds a pattern that cannot be used. -/
  | badPattern (pattern : String) (fault : PatternFault)

/-- The wording of a fault of a configuration. -/
def ConfigFault.message : ConfigFault → String
  | .noPackages => "at least one package to scan is required"
  | .blankPackage package => "package name cannot be empty: " ++ Text.quoted package
  | .zeroDepth => "package_depth must be at least 1"
  | .blankSingleModule => "single_module name cannot be empty"
  | .unknownLogLevel level => "invalid log level: " ++ level
  | .blankWrapper => "response_wrapper cannot be empty"
  | .emptyIdentity => "custom type identity cannot be empty"
  | .blankTarget identity => "custom type '" ++ identity ++ "' has an empty target name"
  | .noManifest => "no type manifest given to discover types from"
  | .malformed => ""

/-- The first line of the wording of a fault of a pattern. -/
def PatternFault.message : PatternFault → String
  | .grammar => "regex parse error:"
  | .tooLarge limit => "Compiled regex exceeds size limit of " ++ toString limit ++ " bytes."

namespace Error

/-- What the system says of a file that is not there. -/
def absence : String := "No such file or directory (os error 2)"

/-- The wording of an error, up to the point where the wording of a text format would follow. -/
def message : Error → String
  | .missingConverter role => role.name ++ " converter is not set"
  | .unsupportedVersion version origin supported =>
    "unsupported host: unsupported manifest format " ++ toString version ++ " in " ++
      Text.quoted origin ++ ", expected " ++ toString supported
  | .malformedManifest origin =>
    "discovery failed: malformed manifest " ++ Text.quoted origin ++ ":"
  | .absentFile path => "I/O error on " ++ Text.quoted path ++ ": " ++ absence
  | .malformedValue fault => "serialization error: " ++ fault.message
  | .config .malformed => "configuration error:"
  | .config fault => "configuration error: " ++ fault.message
  | .badPattern pattern fault =>
    "invalid filter: bad pattern " ++ Text.quoted pattern ++ ": " ++ fault.message

/-- The exit status of a run that failed. -/
def exitCode : Error → Nat
  | .missingConverter _ => 2
  | .malformedManifest _ => 3
  | .absentFile _ => 4
  | .malformedValue _ => 5
  | .config _ => 6
  | .badPattern _ _ => 7
  | .unsupportedVersion _ _ _ => 8

/-- Whether the cause lies in the setup of the run rather than in its input. -/
def isSetup : Error → Bool
  | .missingConverter _ | .unsupportedVersion _ _ _ | .config _ | .badPattern _ _ => true
  | .malformedManifest _ | .absentFile _ | .malformedValue _ => false

end Error

/-! ## Warnings -/

/-- What a run reports without failing. -/
inductive Warning where
  /-- An entry of a manifest could not be read. -/
  | notLoaded (name : String) (reason : Json.Fault)
  /-- A type is referred to but not known. -/
  | unresolved (name : String)
  /-- The name of a declaration was taken. -/
  | renamed (source preferred chosen : String)
  /-- A model refers to a type with endpoints. -/
  | modelUsesRest (model rest : String)

namespace Warning

/-- The wording of a warning. -/
def message : Warning → String
  | .notLoaded _ reason => "Failed to load type: " ++ reason.message
  | .unresolved _ => "unresolved type reference, mapped to any"
  | .renamed _ preferred chosen =>
    "name " ++ preferred ++ " already taken in module, using " ++ chosen
  | .modelUsesRest model rest => "Model type " ++ model ++ " references rest type " ++ rest

/-- The type that a warning is about, where it is not part of the wording alone. -/
def about? : Warning → Option String
  | .notLoaded name _ => some name
  | .unresolved name => some name
  | .renamed source _ _ => some source
  | .modelUsesRest _ _ => none

end Warning

end TypeGraph
