import TypeGraph.Source.Marker
import TypeGraph.Source.TypeRef

/-!
# Nullability

Which members may be absent, told from their declared type and markers.
-/

namespace TypeGraph

/-- How the absence of a member is inferred. -/
inductive Nullability where
  /-- From the wrapper, the marker, and types that are numbers or booleans behind a reference. -/
  | standard
  /-- From the wrapper and the marker only. -/
  | markerOnly
  deriving DecidableEq, Repr

namespace Nullability

/-- Whether a type is a number or boolean behind a reference. -/
def isBoxed : TypeRef → Bool
  | .named name _ => Known.isBoxedNumber name || name == Known.boolean
  | _ => false

/-- Whether a member of a declared type with some markers may be absent. -/
def infers (strategy : Nullability) (type : TypeRef) (markers : List Marker) : Bool :=
  type.isOptionalWrapper || Marker.has .nullable markers ||
    match strategy with
    | .standard => isBoxed type
    | .markerOnly => false

/-- The flag of a member after inference: once raised it stays raised. -/
def raise (strategy : Nullability) (type : TypeRef) (markers : List Marker) (flag : Bool) : Bool :=
  flag || strategy.infers type markers

end Nullability

end TypeGraph
