import TypeGraph.Names
import TypeGraph.Role
import TypeGraph.Source.Descriptor

/-!
# Classification

The roles of source types. Enums are enums whatever the filters say; another type is a model or a type
with endpoints when the filter of that role accepts it, and it may have both roles.
-/

namespace TypeGraph

/-- The identities of every role. -/
structure Classification where
  enums : Names := ∅
  models : Names := ∅
  rests : Names := ∅

namespace Classification

/-- The identities of a role. -/
def ofRole (c : Classification) : Role → Names
  | .enum => c.enums
  | .model => c.models
  | .rest => c.rests

/-- Whether an identity has a role. -/
def contains (c : Classification) (identity : String) : Bool :=
  identity ∈ c.enums || identity ∈ c.models || identity ∈ c.rests

/-- The roles of an identity. -/
def rolesOf (c : Classification) (identity : String) : List Role :=
  [Role.enum, .model, .rest].filter fun role => identity ∈ c.ofRole role

/-- The identities of the types that meet a condition. -/
def named (types : List Descriptor) (condition : Descriptor → Bool) : Names :=
  Names.ofList ((types.filter condition).map (·.name))

/-- The classification of some types by the two filters. -/
def ofTypes (isModel isRest : Descriptor → Bool) (types : List Descriptor) : Classification :=
  { enums := named types (·.isEnum)
    models := named types fun d => !d.isEnum && isModel d
    rests := named types fun d => !d.isEnum && isRest d }

end Classification

end TypeGraph
