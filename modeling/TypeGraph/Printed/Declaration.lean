import TypeGraph.Printed.Key
import TypeGraph.Printed.TypeSyntax
import TypeGraph.Target.Declaration

/-!
# Printed declarations

The text of an enum, an alias or an interface. Members are indented by four blanks; methods stand apart
by an empty line and carry their documentation.
-/

namespace TypeGraph.Printed

/-- The indentation of members. -/
def indent : String := "    "

/-- A line of a text. -/
def line (s : String) : String := s ++ "\n"

/-! ## Parameters -/

/-- How a parameter shows that it may be absent. -/
inductive ParamForm where
  /-- It has to be given. -/
  | required
  /-- It may be absent, but a later one has to be given. -/
  | orUndefined
  /-- It may be left out, as may all later ones. -/
  | optional
  deriving DecidableEq, Repr

/-- The position from which on all parameters may be left out. -/
def optionalFrom (params : List Property) : Nat :=
  params.length - (params.reverse.takeWhile (·.nullable)).length

/-- The form of the parameter at a position. -/
def paramForm (firstOptional position : Nat) (p : Property) : ParamForm :=
  if firstOptional ≤ position then .optional
  else if p.nullable then .orUndefined
  else .required

/-- A parameter in a form. -/
def param (naming : Naming) (p : Property) : ParamForm → String
  | .optional => p.name ++ "?: " ++ type naming p.type
  | .orUndefined => p.name ++ ": " ++ type naming p.type ++ " | undefined"
  | .required => p.name ++ ": " ++ type naming p.type

/-- The parameters of a method with their forms. -/
def paramForms (params : List Property) : List (Property × ParamForm) :=
  params.zipIdx.map fun (p, i) => (p, paramForm (optionalFrom params) i p)

/-- The parameter list of a method. -/
def params (naming : Naming) (ps : List Property) : String :=
  String.intercalate ", " ((paramForms ps).map fun (p, form) => param naming p form)

/-! ## Members -/

/-- A property. -/
def property (naming : Naming) (p : Property) : String :=
  line (indent ++ key p.name ++ (if p.nullable then "?" else "") ++ ": " ++ type naming p.type ++ ";")

/-- The comment before a method. -/
def docs (lines : List String) : String :=
  if lines.isEmpty then ""
  else line (indent ++ "/**") ++ String.join (lines.map fun doc => line (indent ++ " * " ++ doc)) ++
    line (indent ++ " */")

/-- A method with its comment. -/
def method (naming : Naming) (m : Signature) : String :=
  docs m.docs ++
    line (indent ++ m.name ++ "(" ++ params naming m.params ++ "): " ++ type naming m.returns ++ ";")

/-- The members of an interface. Methods stand apart from what comes before them. -/
def members (naming : Naming) (i : Interface) : String :=
  let properties := i.properties.map (property naming)
  let methods := i.methods.map (method naming)
  String.join properties ++ (if properties.isEmpty || methods.isEmpty then "" else "\n") ++
    String.intercalate "\n" methods

/-! ## Declarations -/

/-- A declaration. -/
def declaration (naming : Naming) (d : Declaration) : String :=
  match d.body with
  | .enum constants =>
    line ("export enum " ++ d.name ++ " \x7b") ++
      String.join (constants.map fun c => line (indent ++ c ++ " = '" ++ c ++ "',")) ++ line "\x7d"
  | .alias typeParams target =>
    line ("export type " ++ d.name ++ typeParamsClause typeParams ++ " = " ++ type naming target ++
      ";")
  | .interface i =>
    let bases :=
      if i.bases.isEmpty then ""
      else " extends " ++ String.intercalate ", " (i.bases.map (type naming))
    line ("export interface " ++ d.name ++ typeParamsClause i.typeParams ++ bases ++ " \x7b") ++
      members naming i ++ line "\x7d"

end TypeGraph.Printed
