import TypeGraph.Classification.Basic
import TypeGraph.Conversion.Mapping
import TypeGraph.Source.Closure

/-!
# Exploration

From the types with endpoints a classification grows to everything that their endpoints exchange. A
supertype of a type with endpoints joins them, unless it has another role already. What endpoints
mention, and what the types found that way mention, becomes a model or an enum; a type with endpoints
is no model. Types with a fixed mapping, unknown types and annotations never join.
-/

namespace TypeGraph

/-- What an exploration knows: the types, and the chosen targets. -/
structure Surroundings where
  index : Index
  custom : CustomTypes

namespace Surroundings

/-- Whether a known type can be given a role. -/
def isUsable (s : Surroundings) (d : Descriptor) : Bool :=
  !s.custom.isMapped d.name && d.kind != .annotationType

/-- The known types of some identities. -/
def known (s : Surroundings) (names : Names) : List Descriptor :=
  names.toList.filterMap s.index.find?

end Surroundings

/-- The identities that the supertypes of a type begin with. -/
def Descriptor.baseNames (d : Descriptor) : List String :=
  d.supertypes.filterMap fun t => t.identities.head?

/-- The identities that the supertypes of a type mention after the first one. -/
def Descriptor.baseArguments (d : Descriptor) : List String :=
  d.supertypes.flatMap fun t => t.identities.tail

namespace Classification

/-- Whether a type joins those with endpoints when it is a supertype of one. -/
def admitsBase (s : Surroundings) (c : Classification) (d : Descriptor) : Bool :=
  s.isUsable d && !d.isEnum && d.name ∉ c.enums && d.name ∉ c.models

/-- The types with endpoints, and their supertypes as far as they join them. -/
def restClosure (s : Surroundings) (c : Classification) : Names :=
  s.index.closure (c.admitsBase s) Descriptor.baseNames
    ((s.known c.rests).flatMap Descriptor.baseNames) c.rests

/-- What a type with endpoints mentions besides its supertypes. -/
def seeds (d : Descriptor) : List String := d.endpointReferences ++ d.baseArguments

/-- Whether a type becomes a model or enum when it is mentioned. -/
def admitsMention (s : Surroundings) (c : Classification) (d : Descriptor) : Bool :=
  s.isUsable d && !c.contains d.name && (d.isEnum || !d.hasEndpoints)

/-- The mentions of a type that was found by exploration. -/
def mentions (d : Descriptor) : List String := if d.isEnum then [] else d.modelReferences

/-- The identities that the types with endpoints mention, directly or through each other, as far as
they become models or enums. -/
def mentioned (s : Surroundings) (c : Classification) : Names :=
  s.index.closure (c.admitsMention s) mentions ((s.known c.rests).flatMap seeds) ∅

/-- Adds the identities of some types to a set. -/
def addAll (names : Names) (types : List Descriptor) : Names :=
  types.foldl (fun names d => names.insert d.name) names

/-- A classification grown by exploration. -/
def explore (s : Surroundings) (c : Classification) : Classification :=
  let c := { c with rests := c.restClosure s }
  let found := s.known (c.mentioned s)
  { c with
    enums := addAll c.enums (found.filter (·.isEnum))
    models := addAll c.models (found.filter fun d => !d.isEnum) }

/-- The mentions of types with endpoints by models. -/
def restMentions (s : Surroundings) (c : Classification) : List (String × String) :=
  (s.known c.models).flatMap fun d =>
    (d.modelReferences.filter fun name => name ∈ c.rests).map fun name => (d.name, name)

end Classification

end TypeGraph
