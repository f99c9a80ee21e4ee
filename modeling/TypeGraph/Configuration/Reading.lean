import TypeGraph.Configuration.Written
import TypeGraph.Filter.Reading

/-!
# Configurations read from values

The decoder of configurations. Every field may be left out.
-/

namespace TypeGraph

open Json (Decoded Manner)

/-- The ways to infer absence by name. -/
def Nullability.named : List (String × Nullability) :=
  [Nullability.standard, .markerOnly].map fun n => (n.name, n)

/-! ## Options -/

def ModelOptions.ofJson (manner : Manner) (v : Json) : Decoded ModelOptions := do
  let form ← Json.asRecord manner "ModelConverterConfig" ["include_ignored"] v
  let includeIgnored := form.get "include_ignored" Json.asBool
  form.settle [includeIgnored.fault?]
  return { includeIgnored := ← includeIgnored.orElse false }

def RestOptions.ofJson (manner : Manner) (v : Json) : Decoded RestOptions := do
  let form ← Json.asRecord manner "RestConverterConfig" ["response_wrapper", "wrapper_module"] v
  let wrapper := form.get "response_wrapper" Json.asText
  let wrapperModule := form.get "wrapper_module" (Json.asOption Json.asText)
  form.settle [wrapper.fault?, wrapperModule.fault?]
  return { wrapper := ← wrapper.orElse "Promise", wrapperModule := ← wrapperModule.orElse none }

def CustomTarget.ofJson (manner : Manner) (v : Json) : Decoded CustomTarget := do
  let form ← Json.asRecord manner "CustomTypeSpec" ["name", "module"] v
  let name := form.get "name" Json.asText
  let module := form.get "module" (Json.asOption Json.asText)
  form.settle [name.fault?, module.fault?]
  return { name := ← name.required form, module := ← module.orElse none }

/-- The options of both kinds of conversion. -/
def converterOptions (manner : Manner) (v : Json) :
    Decoded (Option ModelOptions × Option RestOptions) := do
  let form ← Json.asRecord manner "ConvertersConfig" ["model", "rest"] v
  let model := form.get "model" (Json.asOption (ModelOptions.ofJson manner))
  let rest := form.get "rest" (Json.asOption (RestOptions.ofJson manner))
  form.settle [model.fault?, rest.fault?]
  return (← model.orElse none, ← rest.orElse none)

/-! ## Configurations -/

/-- The fields of a configuration in order of declaration. -/
def Configuration.fieldNames : List String :=
  ["packages", "input", "output_dir", "package_depth", "single_module", "log_level",
   "nullable_strategy", "model_filter", "rest_filter", "converters", "custom_types"]

/-- A configuration. -/
def Configuration.ofJson (manner : Manner) (v : Json) : Decoded Configuration := do
  let form ← Json.asRecord manner "GeneratorConfig" Configuration.fieldNames v
  let packages := form.get "packages" (Json.listOf Json.asText)
  let inputs := form.get "input" (Json.listOf Json.asPath)
  let outputDirectory := form.get "output_dir" Json.asPath
  let packageDepth := form.get "package_depth" Json.asNatural
  let singleModule := form.get "single_module" (Json.asOption Json.asText)
  let logLevel := form.get "log_level" Json.asText
  let nullability := form.get "nullable_strategy" (Json.asName manner Nullability.named)
  let modelFilter := form.get "model_filter" (Filter.ofJson manner)
  let restFilter := form.get "rest_filter" (Filter.ofJson manner)
  let converters := form.get "converters" (converterOptions manner)
  let customTypes := form.get "custom_types" (Json.asMap (CustomTarget.ofJson manner))
  form.settle [packages.fault?, inputs.fault?, outputDirectory.fault?, packageDepth.fault?,
    singleModule.fault?, logLevel.fault?, nullability.fault?, modelFilter.fault?,
    restFilter.fault?, converters.fault?, customTypes.fault?]
  let (model, rest) ← converters.orElse (none, none)
  return {
    packages := ← packages.orElse []
    inputs := ← inputs.orElse []
    outputDirectory := ← outputDirectory.orElse "generated"
    packageDepth := ← packageDepth.orElse 2
    singleModule := ← singleModule.orElse none
    logLevel := ← logLevel.orElse "info"
    nullability := ← nullability.orElse .standard
    modelFilter := ← modelFilter.orElse .rejectAll
    restFilter := ← restFilter.orElse .rejectAll
    model, rest
    customTypes := NameMap.ofList (← customTypes.orElse []) }

end TypeGraph
