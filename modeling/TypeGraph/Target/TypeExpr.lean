/-!
# Type expressions

The types that generated declarations speak of. A generated declaration is referred to by the
identity of the source type it stands for; what it is called, and whether it has to be imported, is
decided only when a module is printed.
-/

namespace TypeGraph

/-- The keyword types. -/
inductive Keyword where
  | number
  | string
  | boolean
  | any
  | void
  | null
  | unknown
  deriving DecidableEq, Repr

namespace Keyword

/-- The keyword as it is written. -/
def text : Keyword → String
  | .number => "number"
  | .string => "string"
  | .boolean => "boolean"
  | .any => "any"
  | .void => "void"
  | .null => "null"
  | .unknown => "unknown"

/-- Every keyword. -/
def all : List Keyword := [.number, .string, .boolean, .any, .void, .null, .unknown]

/-- The keyword with a given text. -/
def ofText? (s : String) : Option Keyword := all.find? (·.text == s)

end Keyword

/-- A type. -/
inductive TypeExpr where
  | keyword (keyword : Keyword)
  /-- A type that is known everywhere, such as `Date`. -/
  | global (name : String)
  /-- The declaration generated for a source type. -/
  | declared (source : String)
  /-- A name exported by an existing module. -/
  | external (name : String) (module : String)
  | array (element : TypeExpr)
  /-- A type applied to arguments; `TypeExpr.apply` keeps the arguments non-empty. -/
  | generic (base : TypeExpr) (args : List TypeExpr)
  /-- A type parameter of the enclosing declaration. -/
  | parameter (name : String)
  /-- An object with a value for every key. -/
  | dictionary (value : TypeExpr)

namespace TypeExpr

/-- The type that stands for anything. -/
def any : TypeExpr := .keyword .any

/-- A type applied to arguments; to none it is itself. -/
def apply (base : TypeExpr) : List TypeExpr → TypeExpr
  | [] => base
  | arg :: rest => .generic base (arg :: rest)

/-! ## Named types of a configuration -/

/-- A name without array suffix: a keyword, an export of the module if there is one, or a global. -/
def ofAtom (name : String) (module : Option String) : TypeExpr :=
  match Keyword.ofText? name, module with
  | some word, _ => .keyword word
  | none, some module => .external name module
  | none, none => .global name

/-- The type with a name given last character first; each `[]` at the end is one level of arrays. -/
def ofReversed (module : Option String) : List Char → TypeExpr
  | ']' :: '[' :: rest => .array (ofReversed module rest)
  | reversed => ofAtom (String.ofList reversed.reverse) module

/-- The type with a name: a keyword, a global, or an export of `module`, with `[]` for arrays. -/
def ofText (name : String) (module : Option String) : TypeExpr :=
  ofReversed module name.toList.reverse

/-! ## References inside a type -/

/-- Whether an interface can extend this type. -/
def isExtendable : TypeExpr → Bool
  | .declared _ | .external _ _ => true
  | .generic base _ => base.isExtendable
  | _ => false

mutual

/-- The sources of the declarations that a type refers to, in order. -/
def sources : TypeExpr → List String
  | .declared source => [source]
  | .array inner | .dictionary inner => inner.sources
  | .generic base args => base.sources ++ sourcesOf args
  | .keyword _ | .global _ | .external _ _ | .parameter _ => []

/-- The sources of the declarations that some types refer to, in order. -/
def sourcesOf : List TypeExpr → List String
  | [] => []
  | t :: rest => t.sources ++ sourcesOf rest

end

mutual

/-- The exports that a type refers to, as module and name, in order. -/
def externals : TypeExpr → List (String × String)
  | .external name module => [(module, name)]
  | .array inner | .dictionary inner => inner.externals
  | .generic base args => base.externals ++ externalsOf args
  | .keyword _ | .global _ | .declared _ | .parameter _ => []

/-- The exports that some types refer to, in order. -/
def externalsOf : List TypeExpr → List (String × String)
  | [] => []
  | t :: rest => t.externals ++ externalsOf rest

end

end TypeExpr

end TypeGraph
