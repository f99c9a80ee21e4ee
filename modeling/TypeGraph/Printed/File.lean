import TypeGraph.Printed.Declaration
import TypeGraph.Printed.Imports

/-!
# Printed modules

Every module that exports something is one file: a header, the imports, and the declarations in the
order of their exported names. The order of everything is fixed, so a graph has one printed form.
-/

namespace TypeGraph.Printed

/-- The first line of every file. -/
def header : String := "// Generated by tsbridge. Do not edit.\n"

/-- A file below the output directory. -/
structure File where
  path : String
  content : String
  deriving DecidableEq, Repr

/-- The text of a module. -/
def moduleText (g : Graph) (m : Module) : String :=
  let declarations := g.declarationsOf m
  let bound := imports g m.path declarations
  let naming := namingIn g m.path bound
  header ++ importBlock bound ++
    String.join (declarations.map fun d => "\n" ++ declaration naming d)

/-- The files of a graph in the order of their modules' paths. -/
def files (g : Graph) : List File :=
  (g.modules.sorted.filter fun m => !m.names.isEmpty).map fun m =>
    { path := m.path.file, content := moduleText g m }

end TypeGraph.Printed
