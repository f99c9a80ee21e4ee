import TypeGraph.Conversion.Endpoint
import TypeGraph.Conversion.Nullability
import TypeGraph.Conversion.Resolve
import TypeGraph.Error
import TypeGraph.Target.Declaration

/-!
# Converters

What becomes of a source type, by its role: an enum keeps its constants; a model becomes an interface
of its fields, or an alias when it only stands for a collection; a type with endpoints becomes an
interface of their signatures. A converter names the references that it resolves, in order, and the
body that it makes of them.
-/

namespace TypeGraph

/-- How types of one role are converted. -/
inductive Converter where
  | enum
  /-- Keeps members left out of serialised values only when told to. -/
  | model (includeIgnored : Bool)
  /-- Wraps the result of every endpoint in a generic type. -/
  | rest (wrapper : TypeExpr)

namespace Converter

/-- The role that a converter is for. -/
def role : Converter → Role
  | .enum => .enum
  | .model _ => .model
  | .rest _ => .rest

/-- The shell that a converter registers. -/
def shell : Converter → Body
  | .enum => .emptyEnum
  | .model _ | .rest _ => .emptyInterface

/-- The fields of a model that are kept. -/
def keptFields (includeIgnored : Bool) (d : Descriptor) : List Field :=
  d.fields.filter fun f => includeIgnored || !Marker.has .jsonIgnore f.markers

/-- The references that a converter resolves, in order. -/
def references (c : Converter) (d : Descriptor) : List TypeRef :=
  match c with
  | .enum => []
  | .model includeIgnored => d.supertypes ++ (keptFields includeIgnored d).map (·.type)
  | .rest _ => d.supertypes ++ d.endpoints.flatMap Method.signature

/-! ## Members -/

/-- The property of a field. -/
def property (resolve : TypeRef → TypeExpr) (strategy : Nullability) (f : Field) : Property :=
  { name := f.name, type := resolve f.type, nullable := strategy.raise f.type f.markers false }

/-- Whether some markers make a query parameter optional. -/
def isOptionalQuery (markers : List Marker) : Bool :=
  markers.any fun
    | .requestParam _ required => !required
    | _ => false

/-- The parameter of an endpoint. -/
def parameter (resolve : TypeRef → TypeExpr) (strategy : Nullability) (p : Parameter) : Property :=
  { name := p.name, type := resolve p.type
    nullable := strategy.raise p.type p.markers (isOptionalQuery p.markers) }

/-- The comment on an endpoint: its method and full path. -/
def endpointDoc (base : String) (m : Method) : String :=
  let (path, method) := m.mapping?.getD ("", none)
  let verb := (method.map HttpMethod.verb).getD "ANY"
  verb ++ " " ++ Endpoint.joinPath base path

/-- The signature of an endpoint. -/
def endpoint (resolve : TypeRef → TypeExpr) (strategy : Nullability) (wrapper : TypeExpr)
    (base : String) (m : Method) : Signature :=
  { name := m.name
    params := m.params.map (parameter resolve strategy)
    returns := .apply wrapper [resolve m.returns]
    docs := [endpointDoc base m] }

/-! ## Bodies -/

/-- The collection that a model stands for: it has no fields, and its only supertype is an array or
dictionary. -/
def collection? (resolve : TypeRef → TypeExpr) (d : Descriptor) : Option TypeExpr :=
  match d.fields, d.supertypes.map resolve with
  | [], [.array element] => some (.array element)
  | [], [.dictionary value] => some (.dictionary value)
  | _, _ => none

/-- The supertypes that an interface can extend. -/
def bases (resolve : TypeRef → TypeExpr) (d : Descriptor) : List TypeExpr :=
  (d.supertypes.map resolve).filter (·.isExtendable)

/-- The body that a converter makes of a type, where `resolve` gives the targets of references. -/
def body (c : Converter) (resolve : TypeRef → TypeExpr) (strategy : Nullability) (d : Descriptor) :
    Body :=
  match c with
  | .enum => .enum d.constants
  | .model includeIgnored =>
    match collection? resolve d with
    | some collection => .alias d.typeParams collection
    | none =>
      .interface {
        typeParams := d.typeParams
        bases := bases resolve d
        properties := (keptFields includeIgnored d).map (property resolve strategy) }
  | .rest wrapper =>
    let base := (d.mapping?.map (·.1)).getD ""
    .interface {
      typeParams := d.typeParams
      bases := bases resolve d
      methods := d.endpoints.map (endpoint resolve strategy wrapper base) }

end Converter

/-- The converters of a run. Enums can always be converted. -/
structure Converters where
  model : Option Converter := none
  rest : Option Converter := none

/-- The converter for a type that was found during conversion. -/
def Converters.for? (c : Converters) (d : Descriptor) : Except Error Converter :=
  if d.isEnum then .ok .enum
  else
    match (if d.hasEndpoints then c.rest else none), c.model with
    | some rest, _ => .ok rest
    | none, some model => .ok model
    | none, none => .error (.missingConverter .model)

end TypeGraph
