import TypeGraph.Target.LinkedTree

/-!
# Modules assigned to packages

The module of a type is found by the path of its package, and created when it is missing. Which module a
package has is remembered, so the path is followed for the first type of a package only.
-/

namespace TypeGraph

/-- A tree of modules, with those remembered that were assigned to packages. -/
structure Assigner where
  /-- How many segments of a package make up the name of a module at the top. -/
  depth : Nat
  tree : LinkedTree := {}
  /-- The numbers of the modules of the packages that were asked for. -/
  known : NameMap Nat := ∅

namespace Assigner

/-- An assigner without modules. At least one segment makes up a name. -/
def ofDepth (depth : Nat) : Assigner := { depth := max depth 1 }

/-- The number of the module that a type belongs to. -/
def assign (a : Assigner) (d : Descriptor) : Nat × Assigner :=
  match a.known.get? d.package with
  | some id => (id, a)
  | none =>
    let (id, tree) := a.tree.ensure (Placement.packagePath a.depth d.package)
    (id, { a with tree, known := a.known.insert d.package id })

end Assigner

end TypeGraph
