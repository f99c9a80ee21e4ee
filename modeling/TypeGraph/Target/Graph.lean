import TypeGraph.Target.Declaration
import TypeGraph.Target.ModuleTree

/-!
# The output graph

The result of a run: the modules and the declarations in them.
-/

namespace TypeGraph

/-- Modules with their declarations. -/
structure Graph where
  modules : ModuleTree := {}
  table : Table := {}

namespace Graph

/-- The paths of all modules, in order. -/
def modulePaths (g : Graph) : List ModulePath := g.modules.sorted.map (·.path)

/-- The declaration that the module at a path exports under a name. -/
def find? (g : Graph) (path : ModulePath) (name : String) : Option Declaration := do
  let m ← g.modules.find? path
  let source ← m.names.get? name
  g.table.find? source

/-- The declarations of a module in the order of the names it exports. -/
def declarationsOf (g : Graph) (m : Module) : List Declaration :=
  m.names.values.filterMap g.table.find?

end Graph

end TypeGraph
