import TypeGraph.Source.Marker
import TypeGraph.Source.TypeRef
import TypeGraph.Text.Segments

/-!
# Descriptors of source types

What is known about a class: its identity, its kind, its members and supertypes, and the types
declared inside it. Descriptors are read-only facts; everything the library derives from them is a
function in this module or a later one.
-/

namespace TypeGraph

/-- Kinds of source types. -/
inductive TypeKind where
  | classType
  | interface
  | enum
  | annotationType
  deriving DecidableEq, Repr

/-- A data member. -/
structure Field where
  name : String
  type : TypeRef
  markers : List Marker := []

/-- A parameter of a method. -/
structure Parameter where
  name : String
  type : TypeRef
  markers : List Marker := []

/-- A method. Only those with a request mapping are endpoints. -/
structure Method where
  name : String
  params : List Parameter := []
  returns : TypeRef := .primitive .void
  markers : List Marker := []

/-- A source type. -/
structure Descriptor where
  name : String
  kind : TypeKind
  typeParams : List String := []
  superclass : Option TypeRef := none
  interfaces : List TypeRef := []
  fields : List Field := []
  methods : List Method := []
  /-- The constants of an enum, in order. -/
  constants : List String := []
  markers : List Marker := []
  /-- The types declared inside this one. -/
  nested : List Descriptor := []

/-- The path and method of an endpoint. -/
def Method.mapping? (m : Method) : Option (String × Option HttpMethod) := Marker.mapping? m.markers

/-- Whether a method is an endpoint. -/
def Method.isEndpoint (m : Method) : Bool := Marker.has .requestMapping m.markers

/-- The types in the signature of a method: its parameters, then its result. -/
def Method.signature (m : Method) : List TypeRef := m.params.map (·.type) ++ [m.returns]

namespace Descriptor

/-- The part of the identity before the last dot. -/
def package (d : Descriptor) : String := Text.beforeLastSegment '.' d.name

/-- The part of the identity after the last dot. -/
def simpleName (d : Descriptor) : String := Text.lastSegment '.' d.name

/-- Whether the type is an enum, by kind or by superclass. -/
def isEnum (d : Descriptor) : Bool :=
  d.kind == .enum || d.superclass.bind TypeRef.rawName? == some Known.enum

/-- The superclass, unless it is a root of all types, and then the interfaces. -/
def supertypes (d : Descriptor) : List TypeRef :=
  (d.superclass.filter fun s =>
    s.rawName? != some Known.object && s.rawName? != some Known.enum).toList ++ d.interfaces

/-- Whether a direct supertype has the given identity. -/
def directlyExtends (d : Descriptor) (identity : String) : Bool :=
  d.supertypes.any fun s => s.rawName? == some identity

/-- The path and method mapped on the type itself. -/
def mapping? (d : Descriptor) : Option (String × Option HttpMethod) := Marker.mapping? d.markers

/-- The methods that are endpoints. -/
def endpoints (d : Descriptor) : List Method := d.methods.filter (·.isEndpoint)

/-- Whether the type has an endpoint. -/
def hasEndpoints (d : Descriptor) : Bool := d.methods.any (·.isEndpoint)

/-- The identities mentioned by supertypes and fields. -/
def modelReferences (d : Descriptor) : List String :=
  (d.supertypes ++ d.fields.map (·.type)).flatMap TypeRef.identities

/-- The identities mentioned by the signatures of endpoints. -/
def endpointReferences (d : Descriptor) : List String :=
  (d.endpoints.flatMap Method.signature).flatMap TypeRef.identities

end Descriptor

end TypeGraph
