import TypeGraph.Configuration.Basic
import TypeGraph.Filter.Written

/-!
# Configurations written as values

The written form of a configuration has all fields; what is absent is `null`.
-/

namespace TypeGraph

/-- The written name of a way to infer absence. -/
def Nullability.name : Nullability → String
  | .standard => "default"
  | .markerOnly => "marker-only"

def ModelOptions.toJson (o : ModelOptions) : Json :=
  .record [("include_ignored", .bool o.includeIgnored)]

def RestOptions.toJson (o : RestOptions) : Json :=
  .record [("response_wrapper", .text o.wrapper),
    ("wrapper_module", Json.orNull .text o.wrapperModule)]

def CustomTarget.toJson (t : CustomTarget) : Json :=
  .record [("name", .text t.name), ("module", Json.orNull .text t.module)]

/-- A configuration. -/
def Configuration.toJson (c : Configuration) : Json :=
  .record [("packages", .texts c.packages), ("input", .texts c.inputs),
    ("output_dir", .text c.outputDirectory), ("package_depth", .int c.packageDepth),
    ("single_module", Json.orNull .text c.singleModule), ("log_level", .text c.logLevel),
    ("nullable_strategy", .text c.nullability.name), ("model_filter", c.modelFilter.toJson),
    ("rest_filter", c.restFilter.toJson),
    ("converters", .record [("model", Json.orNull ModelOptions.toJson c.model),
      ("rest", Json.orNull RestOptions.toJson c.rest)]),
    ("custom_types", .record (c.customTypes.entries.map fun (k, t) => (k, t.toJson)))]

end TypeGraph
