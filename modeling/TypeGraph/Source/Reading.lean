import TypeGraph.Json.Decode
import TypeGraph.Source.Written

/-!
# Descriptors read from values

The decoders of source types. They accept everything that the written form produces and, besides, a
record given as a list and details that are left out: an absent path is empty, an absent result is
`void`, and a query parameter is required unless it says otherwise.
-/

namespace TypeGraph

open Json (Decoded Form Tagged)

/-- The primitive types by name. -/
def Primitive.named : List (String × Primitive) :=
  [Primitive.boolean, .byte, .short, .int, .long, .float, .double, .char, .void].map fun p =>
    (p.name, p)

/-- The kinds of types by name. -/
def TypeKind.named : List (String × TypeKind) :=
  [TypeKind.classType, .interface, .enum, .annotationType].map fun k => (k.name, k)

/-- The methods of requests by verb. -/
def HttpMethod.named : List (String × HttpMethod) :=
  [HttpMethod.get, .post, .put, .patch, .delete, .head, .options].map fun m => (m.verb, m)

/-- The tags of references. -/
inductive TypeRef.Tag where
  | primitive
  | named
  | array
  | typeVar

/-- The tags of references by name. -/
def TypeRef.Tag.all : List (String × TypeRef.Tag) :=
  [("primitive", .primitive), ("named", .named), ("array", .array), ("variable", .typeVar)]

/-- A reference to a type, on its own or inside another one. -/
def TypeRef.decode (manner : Json.Manner) (v : Json) : Decoded TypeRef := do
  let tagged ← Json.asTagged "kind" "TypeRef" v
  match ← tagged.variant manner TypeRef.Tag.all with
  | .primitive =>
    let form := tagged.form "TypeRef::Primitive" ["name"]
    let name := form.get "name" (Json.asName .tagged Primitive.named)
    form.settle [name.fault?]
    return .primitive (← name.required form)
  | .named =>
    let form := tagged.form "TypeRef::Named" ["name", "args"]
    let name := form.get "name" Json.asText
    let args := form.read "args" fun w => Json.asList w.1 fun x => TypeRef.decode .tagged x.1
    form.settle [name.fault?, args.fault?]
    return .named (← name.required form) (← args.orElse [])
  | .array =>
    let form := tagged.form "TypeRef::Array" ["element"]
    let element := form.read "element" fun w => TypeRef.decode .tagged w.1
    form.settle [element.fault?]
    return .array (← element.required form)
  | .typeVar =>
    let form := tagged.form "TypeRef::Variable" ["name"]
    let name := form.get "name" Json.asText
    form.settle [name.fault?]
    return .typeVar (← name.required form)
termination_by sizeOf v
decreasing_by
  · exact Nat.lt_trans x.2 w.2
  · exact w.2

/-- A reference to a type. -/
def TypeRef.ofJson (v : Json) : Decoded TypeRef := TypeRef.decode .plain v

/-- The tags of markers by name, each with the kind it stands for. -/
def Marker.tags : List (String × MarkerKind) :=
  [("nullable", .nullable), ("rest_controller", .restController),
   ("request_mapping", .requestMapping), ("request_body", .requestBody),
   ("path_variable", .pathVariable), ("request_param", .requestParam),
   ("json_ignore", .jsonIgnore), ("other", .other "")]

/-- A marker. -/
def Marker.ofJson (v : Json) : Decoded Marker := do
  let tagged ← Json.asTagged "kind" "Marker" v
  let bare (marker : Marker) : Decoded Marker := do
    (tagged.form "" []).settle []
    return marker
  match ← tagged.variant .plain Marker.tags with
  | .nullable => bare .nullable
  | .restController => bare .restController
  | .requestMapping =>
    let form := tagged.form "Marker::RequestMapping" ["path", "method"]
    let path := form.get "path" Json.asText
    let method := form.get "method" (Json.asOption (Json.asName .tagged HttpMethod.named))
    form.settle [path.fault?, method.fault?]
    return .requestMapping (← path.orElse "") (← method.orElse none)
  | .requestBody => bare .requestBody
  | .pathVariable =>
    let form := tagged.form "Marker::PathVariable" ["name"]
    let name := form.get "name" (Json.asOption Json.asText)
    form.settle [name.fault?]
    return .pathVariable (← name.orElse none)
  | .requestParam =>
    let form := tagged.form "Marker::RequestParam" ["name", "required"]
    let name := form.get "name" (Json.asOption Json.asText)
    let required := form.get "required" Json.asBool
    form.settle [name.fault?, required.fault?]
    return .requestParam (← name.orElse none) (← required.orElse true)
  | .jsonIgnore => bare .jsonIgnore
  | .other _ =>
    let form := tagged.form "Marker::Other" ["name"]
    let name := form.get "name" Json.asText
    form.settle [name.fault?]
    return .other (← name.required form)

/-- A kind of markers. The kind with a name of its own needs that name, the others take no value. -/
def MarkerKind.ofJson (manner : Json.Manner) (v : Json) : Decoded MarkerKind := do
  match ← Json.asVariant Marker.tags v with
  | (.other _, none) => throw .bareVariant
  | (.other _, some w) => return .other (← Json.asText w)
  | (kind, none) => return kind
  | (kind, some w) => if Json.isIdle manner w then return kind else throw (.wrongType w "unit")

/-- A data member. -/
def Field.ofJson (v : Json) : Decoded Field := do
  let form ← Json.asRecord .plain "Field" ["name", "type", "markers"] v
  let name := form.get "name" Json.asText
  let type := form.get "type" TypeRef.ofJson
  let markers := form.get "markers" (Json.listOf Marker.ofJson)
  form.settle [name.fault?, type.fault?, markers.fault?]
  return { name := ← name.required form, type := ← type.required form,
           markers := ← markers.orElse [] }

/-- A parameter. -/
def Parameter.ofJson (v : Json) : Decoded Parameter := do
  let form ← Json.asRecord .plain "Parameter" ["name", "type", "markers"] v
  let name := form.get "name" Json.asText
  let type := form.get "type" TypeRef.ofJson
  let markers := form.get "markers" (Json.listOf Marker.ofJson)
  form.settle [name.fault?, type.fault?, markers.fault?]
  return { name := ← name.required form, type := ← type.required form,
           markers := ← markers.orElse [] }

/-- A method. -/
def Method.ofJson (v : Json) : Decoded Method := do
  let form ← Json.asRecord .plain "Method" ["name", "params", "returns", "markers"] v
  let name := form.get "name" Json.asText
  let params := form.get "params" (Json.listOf Parameter.ofJson)
  let returns := form.get "returns" TypeRef.ofJson
  let markers := form.get "markers" (Json.listOf Marker.ofJson)
  form.settle [name.fault?, params.fault?, returns.fault?, markers.fault?]
  return { name := ← name.required form, params := ← params.orElse [],
           returns := ← returns.orElse (.primitive .void), markers := ← markers.orElse [] }

/-- The fields of a source type in order of declaration. -/
def Descriptor.fieldNames : List String :=
  ["name", "kind", "type_params", "superclass", "interfaces", "fields", "methods", "constants",
   "markers", "nested"]

/-- A source type with everything declared inside it. -/
def Descriptor.ofJson (v : Json) : Decoded Descriptor := do
  let form ← Json.asRecord .plain "TypeDescriptor" Descriptor.fieldNames v
  let name := form.get "name" Json.asText
  let kind := form.get "kind" (Json.asName .plain TypeKind.named)
  let typeParams := form.get "type_params" (Json.listOf Json.asText)
  let superclass := form.get "superclass" (Json.asOption TypeRef.ofJson)
  let interfaces := form.get "interfaces" (Json.listOf TypeRef.ofJson)
  let fields := form.get "fields" (Json.listOf Field.ofJson)
  let methods := form.get "methods" (Json.listOf Method.ofJson)
  let constants := form.get "constants" (Json.listOf Json.asText)
  let markers := form.get "markers" (Json.listOf Marker.ofJson)
  let nested := form.read "nested" fun w => Json.asList w.1 fun x => Descriptor.ofJson x.1
  form.settle [name.fault?, kind.fault?, typeParams.fault?, superclass.fault?, interfaces.fault?,
    fields.fault?, methods.fault?, constants.fault?, markers.fault?, nested.fault?]
  return {
    name := ← name.required form
    kind := ← kind.required form
    typeParams := ← typeParams.orElse []
    superclass := ← superclass.orElse none
    interfaces := ← interfaces.orElse []
    fields := ← fields.orElse []
    methods := ← methods.orElse []
    constants := ← constants.orElse []
    markers := ← markers.orElse []
    nested := ← nested.orElse [] }
termination_by sizeOf v
decreasing_by exact Nat.lt_trans x.2 w.2

end TypeGraph
