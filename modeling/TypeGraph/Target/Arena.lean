import TypeGraph.Names
import TypeGraph.Target.Declaration

/-!
# Declarations by number

The declarations of a run with a register of their numbers. The number of a declaration is its place in the
order of registration; whoever registers a source type is answered with it, and fills in and renames the
declaration by it. There is nothing at a number that was never answered, and an operation on it fails.
-/

namespace TypeGraph

/-- Declarations with their numbers. -/
structure Arena where
  declarations : List Declaration := []
  /-- The numbers of the declarations, by their sources. -/
  bySource : NameMap Nat := ∅

namespace Arena

/-- The number of the declaration for a source type. -/
def lookup? (a : Arena) (source : String) : Option Nat := a.bySource.get? source

/-- The declaration with a number. -/
def get? (a : Arena) (id : Nat) : Option Declaration := a.declarations[id]?

/-- Whether the declaration with a number is filled in. -/
def isPopulated? (a : Arena) (id : Nat) : Option Bool := do
  return (← a.get? id).progress == .populated

/-- Adds a shell, and answers with the number for its source type and whether that is new. The first
registration of a source type stands. -/
def register (a : Arena) (shell : Declaration) : (Nat × Bool) × Arena :=
  match a.lookup? shell.source with
  | some id => ((id, false), a)
  | none =>
    ((a.declarations.length, true),
      { declarations := a.declarations ++ [shell]
        bySource := a.bySource.insert shell.source a.declarations.length })

/-- Fills in the declaration with a number, and answers whether it was a shell. -/
def populate? (a : Arena) (id : Nat) (body : Body) : Option (Bool × Arena) := do
  let d ← a.get? id
  match d.progress with
  | .populated => return (false, a)
  | .registered =>
    let declarations := a.declarations.set id { d with body, progress := .populated }
    return (true, { a with declarations })

/-- Changes the name of the declaration with a number. -/
def rename? (a : Arena) (id : Nat) (name : String) : Option Arena := do
  let d ← a.get? id
  return { a with declarations := a.declarations.set id { d with name } }

/-- The declarations without their numbers. -/
def table (a : Arena) : Table := ⟨a.declarations⟩

/-! ## Operations -/

/-- An operation on declarations. -/
inductive Operation where
  | register (shell : Declaration)
  | populate (id : Nat) (body : Body)
  | rename (id : Nat) (name : String)

/-- The declarations after an operation, unless it is on a number without a declaration. -/
def perform? (a : Arena) : Operation → Option Arena
  | .register shell => some (a.register shell).2
  | .populate id body => (a.populate? id body).map (·.2)
  | .rename id name => a.rename? id name

/-- The declarations after some operations. -/
def performAll? (a : Arena) (ops : List Operation) : Option Arena := ops.foldlM perform? a

end Arena

end TypeGraph
