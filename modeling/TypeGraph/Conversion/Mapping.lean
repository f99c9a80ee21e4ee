import TypeGraph.Names
import TypeGraph.Source.TypeRef
import TypeGraph.Target.TypeExpr

/-!
# Fixed mappings

Types that never get a declaration of their own: those with a target chosen in the configuration, and
the library types whose target is known. A chosen target always wins.
-/

namespace TypeGraph

/-- The target of a library type. -/
inductive Builtin where
  | keyword (keyword : Keyword)
  | global (name : String)
  /-- Stands for its element. -/
  | optional
  /-- An array of its element. -/
  | collection
  /-- A dictionary of its values. -/
  | map
  deriving DecidableEq, Repr

/-- The target of a library type, if it is one. -/
def Builtin.of? (identity : String) : Option Builtin :=
  if Known.isBoxedNumber identity then some (.keyword .number)
  else if Known.dateTimes.contains identity then some (.global "Date")
  else if Known.collections.contains identity then some .collection
  else if Known.maps.contains identity then some .map
  else if Known.texts.contains identity then some (.keyword .string)
  else if identity = Known.boolean then some (.keyword .boolean)
  else if identity = Known.object then some (.keyword .any)
  else if identity = Known.void then some (.keyword .void)
  else if identity = Known.optional then some .optional
  else none

/-- The argument of a library type that its target is made of, by position. -/
def Builtin.argument? : Builtin → Option Nat
  | .keyword _ | .global _ => none
  | .optional | .collection => some 0
  | .map => some 1

/-- The target of a library type, from the target of its argument. -/
def Builtin.target (argument : TypeExpr) : Builtin → TypeExpr
  | .keyword k => .keyword k
  | .global name => .global name
  | .optional => argument
  | .collection => .array argument
  | .map => .dictionary argument

/-- The targets chosen for source identities. -/
abbrev CustomTypes := NameMap TypeExpr

/-- Whether an identity never needs a declaration. -/
def CustomTypes.isMapped (custom : CustomTypes) (identity : String) : Bool :=
  custom.contains identity || (Builtin.of? identity).isSome

/-- The keyword of a primitive type. -/
def Primitive.keyword : Primitive → Keyword
  | .boolean => .boolean
  | .char => .string
  | .void => .void
  | .byte | .short | .int | .long | .float | .double => .number

end TypeGraph
