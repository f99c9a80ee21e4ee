import TypeGraph.Json.Basic
import TypeGraph.Source.Descriptor

/-!
# Descriptors written as values

The written form of source types. Empty lists and an absent superclass are left out, except the
parameters of a method, which are always written; details of a marker are always written too, as
`null` when they are absent.
-/

namespace TypeGraph

/-- The written name of a primitive type. -/
def Primitive.name : Primitive → String
  | .boolean => "boolean"
  | .byte => "byte"
  | .short => "short"
  | .int => "int"
  | .long => "long"
  | .float => "float"
  | .double => "double"
  | .char => "char"
  | .void => "void"

/-- The written name of a kind of types. -/
def TypeKind.name : TypeKind → String
  | .classType => "class"
  | .interface => "interface"
  | .enum => "enum"
  | .annotationType => "annotation"

mutual

/-- A reference, tagged with its kind. -/
def TypeRef.toJson : TypeRef → Json
  | .primitive p => .record [("kind", .text "primitive"), ("name", .text p.name)]
  | .named name args =>
    .recordOf [("kind", some (.text "named")), ("name", some (.text name)),
      ("args", TypeRef.argsToJson args)]
  | .array element => .record [("kind", .text "array"), ("element", element.toJson)]
  | .typeVar name => .record [("kind", .text "variable"), ("name", .text name)]

/-- The arguments of a reference, when there are any. -/
def TypeRef.argsToJson : List TypeRef → Option Json
  | [] => none
  | t :: rest => some (.list (t.toJson :: TypeRef.listToJson rest))

/-- References one by one. -/
def TypeRef.listToJson : List TypeRef → List Json
  | [] => []
  | t :: rest => t.toJson :: TypeRef.listToJson rest

end

theorem TypeRef.listToJson_eq_map (refs : List TypeRef) :
    TypeRef.listToJson refs = refs.map TypeRef.toJson := by
  induction refs with
  | nil => rfl
  | cons t rest ih => simp [TypeRef.listToJson, ih]

/-- A marker, tagged with its kind. -/
def Marker.toJson : Marker → Json
  | .nullable => .record [("kind", .text "nullable")]
  | .restController => .record [("kind", .text "rest_controller")]
  | .requestMapping path method =>
    .record [("kind", .text "request_mapping"), ("path", .text path),
      ("method", Json.orNull (fun m => .text m.verb) method)]
  | .requestBody => .record [("kind", .text "request_body")]
  | .pathVariable name =>
    .record [("kind", .text "path_variable"), ("name", Json.orNull .text name)]
  | .requestParam name required =>
    .record [("kind", .text "request_param"), ("name", Json.orNull .text name),
      ("required", .bool required)]
  | .jsonIgnore => .record [("kind", .text "json_ignore")]
  | .other name => .record [("kind", .text "other"), ("name", .text name)]

/-- A kind of markers: its name, or an object for a kind with a name of its own. -/
def MarkerKind.toJson : MarkerKind → Json
  | .nullable => .text "nullable"
  | .restController => .text "rest_controller"
  | .requestMapping => .text "request_mapping"
  | .requestBody => .text "request_body"
  | .pathVariable => .text "path_variable"
  | .requestParam => .text "request_param"
  | .jsonIgnore => .text "json_ignore"
  | .other name => .record [("other", .text name)]

def Field.toJson (f : Field) : Json :=
  .recordOf [("name", some (.text f.name)), ("type", some f.type.toJson),
    ("markers", Json.unlessEmpty Marker.toJson f.markers)]

def Parameter.toJson (p : Parameter) : Json :=
  .recordOf [("name", some (.text p.name)), ("type", some p.type.toJson),
    ("markers", Json.unlessEmpty Marker.toJson p.markers)]

def Method.toJson (m : Method) : Json :=
  .recordOf [("name", some (.text m.name)), ("params", some (.list (m.params.map Parameter.toJson))),
    ("returns", some m.returns.toJson), ("markers", Json.unlessEmpty Marker.toJson m.markers)]

mutual

/-- A source type with everything declared inside it. -/
def Descriptor.toJson : Descriptor → Json
  | ⟨name, kind, typeParams, superclass, interfaces, fields, methods, constants, markers, nested⟩ =>
    .recordOf [("name", some (.text name)), ("kind", some (.text kind.name)),
      ("type_params", Json.unlessEmpty .text typeParams),
      ("superclass", superclass.map TypeRef.toJson),
      ("interfaces", Json.unlessEmpty TypeRef.toJson interfaces),
      ("fields", Json.unlessEmpty Field.toJson fields),
      ("methods", Json.unlessEmpty Method.toJson methods),
      ("constants", Json.unlessEmpty .text constants),
      ("markers", Json.unlessEmpty Marker.toJson markers),
      ("nested", Descriptor.nestedToJson nested)]

/-- The types declared inside one, when there are any. -/
def Descriptor.nestedToJson : List Descriptor → Option Json
  | [] => none
  | d :: rest => some (.list (d.toJson :: Descriptor.listToJson rest))

/-- Source types one by one. -/
def Descriptor.listToJson : List Descriptor → List Json
  | [] => []
  | d :: rest => d.toJson :: Descriptor.listToJson rest

end

theorem Descriptor.listToJson_eq_map (types : List Descriptor) :
    Descriptor.listToJson types = types.map Descriptor.toJson := by
  induction types with
  | nil => rfl
  | cons d rest ih => simp [Descriptor.listToJson, ih]

end TypeGraph
