import TypeGraph.Conversion.State
import TypeGraph.Target.Arena

/-!
# Registration by number

The declaration of a type is entered under its preferred name first. When that is taken in its module,
another name is reserved there, and the declaration, known by its number now, is renamed.
-/

namespace TypeGraph.Arena

/-- The shell of a type under its preferred name. -/
def preferredShell (env : Env) (d : Descriptor) (body : Body) : Declaration :=
  { name := Conversion.declarationName d.simpleName, source := d.name
    module := env.placement.path d, body }

/-- Registers a shell for a type, unless a target was chosen for it: the number of its declaration and
whether that is new, and the declarations and modules with it. -/
def declare? (env : Env) (a : Arena) (modules : ModuleTree) (d : Descriptor) (shell : Body) :
    Option (Option (Nat × Bool) × Arena × ModuleTree) :=
  if env.custom.contains d.name then some (none, a, modules)
  else
    match a.lookup? d.name with
    | some id => some (some (id, false), a, modules)
    | none =>
      let preferred := preferredShell env d shell
      let ((id, _), entered) := a.register preferred
      let (name, modules) :=
        (modules.ensure preferred.module).reserve preferred.module preferred.name d.name
      let named := if name = preferred.name then some entered else entered.rename? id name
      named.map fun a => (some (id, true), a, modules)

end TypeGraph.Arena
