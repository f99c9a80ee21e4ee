import TypeGraph.Printed.TypeSyntax
import TypeGraph.Target.Graph

/-!
# Imports of a module

Everything a module refers to outside itself is imported: declarations of other modules, and exports
of existing ones. Each import is bound to a local name that neither a declaration of the module nor an
earlier import has; a name that is taken is bound under an alias, made of the name and the last word of
the specifier.
-/

namespace TypeGraph.Printed

/-- One imported name and what it is called in the importing module. -/
structure Import where
  specifier : String
  name : String
  localName : String
  deriving DecidableEq, Repr

/-! ## What has to be imported -/

/-- The specifiers of a module with the names to import from each. -/
abbrev Demand := NameMap Names

/-- Adds a name to import. -/
def Demand.add (demand : Demand) (specifier name : String) : Demand :=
  demand.insert specifier (((demand.get? specifier).getD ∅).insert name)

/-- The import that a reference to a declaration needs in a module: none for its own declarations. -/
def importOf? (g : Graph) (module : ModulePath) (source : String) : Option (String × String) :=
  match g.table.find? source with
  | some d => if d.module = module then none else some (module.specifier d.module, d.name)
  | none => none

/-- What the body of a declaration makes a module import, as specifier and name. -/
def importsOfBody (g : Graph) (module : ModulePath) (body : Body) : List (String × String) :=
  body.types.flatMap fun t => t.sources.filterMap (importOf? g module) ++ t.externals

/-- What some declarations make their module import. -/
def demandOf (g : Graph) (module : ModulePath) (declarations : List Declaration) : Demand :=
  (declarations.flatMap fun d => importsOfBody g module d.body).foldl
    (fun demand (specifier, name) => demand.add specifier name) ∅

/-- The names to import in order: by specifier, then by name. -/
def Demand.toList (demand : Demand) : List (String × String) :=
  demand.entries.flatMap fun (specifier, names) => names.toList.map fun name => (specifier, name)

/-! ## Local names -/

/-- Whether a character is an ASCII letter or digit. -/
def isWordChar (c : Char) : Bool := c.isAlphanum

/-- The last word of a specifier; `import` if it has none. -/
def lastWord (specifier : String) : String :=
  let word := ((specifier.toList.reverse.dropWhile (!isWordChar ·)).takeWhile isWordChar).reverse
  if word.isEmpty then "import" else String.ofList word

/-- A name for an import whose own name is taken. -/
def importAlias (name specifier : String) (taken : List String) : String :=
  freshName (name ++ "_" ++ lastWord specifier) taken

/-- The local name of an import. -/
def localNameFor (name specifier : String) (taken : List String) : String :=
  if name ∈ taken then importAlias name specifier taken else name

/-- Binds imports one after the other; the names bound before are taken. -/
def bindAll : List (String × String) → List String → List Import
  | [], _ => []
  | (specifier, name) :: rest, taken =>
    let localName := localNameFor name specifier taken
    { specifier, name, localName } :: bindAll rest (localName :: taken)

/-- The imports of a module with some declarations. -/
def imports (g : Graph) (module : ModulePath) (declarations : List Declaration) : List Import :=
  bindAll (demandOf g module declarations).toList (declarations.map (·.name))

/-- What an imported name is called, or the name itself when it is not imported. -/
def localNameOf (bound : List Import) (specifier name : String) : String :=
  match bound.find? fun i => i.specifier == specifier && i.name == name with
  | some i => i.localName
  | none => name

/-- What things are called inside a module with some imports. -/
def namingIn (g : Graph) (module : ModulePath) (bound : List Import) : Naming :=
  { declared := fun source =>
      match g.table.find? source with
      | some d =>
        if d.module = module then d.name
        else localNameOf bound (module.specifier d.module) d.name
      | none => source
    external := localNameOf bound }

/-- What things are called outside any module: by their own names. -/
def plainNaming (g : Graph) : Naming :=
  { declared := fun source => ((g.table.find? source).map (·.name)).getD source
    external := fun _ name => name }

/-! ## Printed imports -/

/-- One name of an import statement. -/
def importedName (i : Import) : String :=
  if i.name = i.localName then i.name else i.name ++ " as " ++ i.localName

/-- The statement that imports some names from a specifier. -/
def importStatement (specifier : String) (names : List Import) : String :=
  "import \x7b " ++ String.intercalate ", " (names.map importedName) ++ " \x7d from '" ++ specifier
    ++ "';\n"

/-- Imports as runs of the same specifier. -/
def bySpecifier : List Import → List (String × List Import)
  | [] => []
  | i :: rest =>
    match bySpecifier rest with
    | (specifier, names) :: others =>
      if i.specifier = specifier then (specifier, i :: names) :: others
      else (i.specifier, [i]) :: (specifier, names) :: others
    | [] => [(i.specifier, [i])]

/-- The import statements of a module, after an empty line if there are any. -/
def importBlock (bound : List Import) : String :=
  if bound.isEmpty then ""
  else "\n" ++ String.join ((bySpecifier bound).map fun (specifier, names) =>
    importStatement specifier names)

end TypeGraph.Printed
