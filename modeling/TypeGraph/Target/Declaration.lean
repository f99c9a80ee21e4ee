import TypeGraph.Target.TypeExpr

/-!
# Declarations

What is generated for one source type: an interface, an enum, or an alias. The declarations of a run
are kept in a table in the order of their registration, one for each source identity. A declaration
is registered as an empty shell and filled in once; after that it never changes.
-/

namespace TypeGraph

/-- A property of an interface or a parameter of a method. -/
structure Property where
  name : String
  type : TypeExpr
  /-- Whether it may be absent. -/
  nullable : Bool := false

/-- A method of an interface. -/
structure Signature where
  name : String
  params : List Property
  returns : TypeExpr
  /-- The lines of its comment. -/
  docs : List String

/-- The members of an interface. -/
structure Interface where
  typeParams : List String := []
  bases : List TypeExpr := []
  properties : List Property := []
  methods : List Signature := []

/-- What a declaration says. -/
inductive Body where
  | interface (members : Interface)
  | enum (members : List String)
  | alias (typeParams : List String) (target : TypeExpr)

namespace Body

/-- An interface without members. -/
def emptyInterface : Body := .interface {}

/-- An enum without members. -/
def emptyEnum : Body := .enum []

/-- All types that a body mentions, supertypes first. -/
def types : Body → List TypeExpr
  | .interface i =>
    i.bases ++ i.properties.map (·.type) ++
      i.methods.flatMap fun m => m.params.map (·.type) ++ [m.returns]
  | .enum _ => []
  | .alias _ target => [target]

/-- The type parameters that a body declares. -/
def typeParams : Body → List String
  | .interface i => i.typeParams
  | .enum _ => []
  | .alias params _ => params

end Body

/-- How far a declaration has come. -/
inductive Progress where
  /-- An empty shell whose members are not known yet. -/
  | registered
  /-- Filled in; it does not change any more. -/
  | populated
  deriving DecidableEq, Repr

/-- A generated declaration. -/
structure Declaration where
  /-- The name under which its module exports it. -/
  name : String
  /-- The identity of the source type. -/
  source : String
  /-- The path of its module. -/
  module : List String
  body : Body
  progress : Progress := .registered

/-- The declarations of a run in the order of their registration. -/
structure Table where
  declarations : List Declaration := []

namespace Table

/-- The declaration for a source type. -/
def find? (t : Table) (source : String) : Option Declaration :=
  t.declarations.find? (·.source == source)

/-- Whether a source type has a declaration. -/
def contains (t : Table) (source : String) : Bool := t.declarations.any (·.source == source)

/-- Whether a source type has a declaration that is filled in. -/
def isPopulated (t : Table) (source : String) : Bool :=
  t.declarations.any fun d => d.source == source && d.progress == .populated

/-- The source identities in the order of registration. -/
def sources (t : Table) : List String := t.declarations.map (·.source)

/-- The number of declarations. -/
def size (t : Table) : Nat := t.declarations.length

/-- The place of the declaration for a source type, in the order of registration. -/
def idOf? (t : Table) (source : String) : Option Nat := t.sources.idxOf? source

/-- Adds a shell. The first registration of a source type stands. -/
def register (t : Table) (shell : Declaration) : Table :=
  if t.contains shell.source then t else ⟨t.declarations ++ [shell]⟩

/-- Changes the declaration of a source type. -/
def modify (t : Table) (source : String) (f : Declaration → Declaration) : Table :=
  ⟨t.declarations.map fun d => if d.source = source then f d else d⟩

/-- Fills in a shell. A declaration that is filled in stays as it is. -/
def populate (t : Table) (source : String) (body : Body) : Table :=
  t.modify source fun d =>
    match d.progress with
    | .registered => { d with body, progress := .populated }
    | .populated => d

/-- Changes the name of a declaration. -/
def rename (t : Table) (source name : String) : Table :=
  t.modify source fun d => { d with name }

end Table

end TypeGraph
