import TypeGraph.Target.TypeExpr

/-!
# Printed types

The syntax of a type expression. What a declaration or an export is called where the type is printed
is told by a `Naming`; everything else is fixed.
-/

namespace TypeGraph.Printed

/-- What declarations and exports are called at some place. -/
structure Naming where
  /-- The name of the declaration for a source type. -/
  declared : String → String
  /-- The name of an export of a module. -/
  external : String → String → String

/-- Things between angle brackets; nothing when there are none. -/
def typeParamsClause (params : List String) : String :=
  if params.isEmpty then "" else "<" ++ String.intercalate ", " params ++ ">"

mutual

/-- The syntax of a type. -/
def type (naming : Naming) : TypeExpr → String
  | .keyword k => k.text
  | .global name => name
  | .declared source => naming.declared source
  | .external name module => naming.external module name
  | .array element => type naming element ++ "[]"
  | .generic base args =>
    type naming base ++ "<" ++ String.intercalate ", " (types naming args) ++ ">"
  | .parameter name => name
  | .dictionary value => "\x7b [key: string]: " ++ type naming value ++ " \x7d"

/-- The syntax of some types. -/
def types (naming : Naming) : List TypeExpr → List String
  | [] => []
  | t :: rest => type naming t :: types naming rest

end

theorem types_eq_map (naming : Naming) (ts : List TypeExpr) :
    types naming ts = ts.map (type naming) := by
  induction ts with
  | nil => rfl
  | cons t rest ih => simp [types, ih]

end TypeGraph.Printed
