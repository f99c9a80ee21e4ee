/-!
# Roles of source types

Every type that takes part in a run has a role, which decides how it is converted.
-/

namespace TypeGraph

/-- The role of a source type. -/
inductive Role where
  | enum
  /-- Data that endpoints exchange. -/
  | model
  /-- A type with endpoints, or a supertype of one. -/
  | rest
  deriving DecidableEq, Repr

/-- The name of a role. -/
def Role.name : Role → String
  | .enum => "enum"
  | .model => "model"
  | .rest => "rest"

end TypeGraph
