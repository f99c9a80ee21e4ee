import TypeGraph.Target.ModuleTree

/-!
# Module trees with links

The modules of a tree in a form that is walked instead of searched. A module has a number, the place of
its creation; it knows the number of the module above it and, under their last segments, the numbers of
those below it. A path is followed from the top, segment by segment, and what is missing on the way is
added and linked. All modules are listed by a walk that keeps those still to be visited on a stack. How
one module names another is computed from their numbers, with every count and slice checked.
-/

namespace TypeGraph

/-- A module with its links. -/
structure LinkedModule where
  path : ModulePath
  /-- The module above, if there is one. -/
  parent : Option Nat := none
  /-- The modules directly below, by their last segments. -/
  children : NameMap Nat := ∅
  /-- The source type behind every name that the module exports. -/
  names : NameMap String := ∅

namespace LinkedModule

/-- The module without its links. -/
def bare (m : LinkedModule) : Module := { path := m.path, names := m.names }

/-- Enters the link to a module below. -/
def link (m : LinkedModule) (segment : String) (id : Nat) : LinkedModule :=
  { m with children := m.children.insert segment id }

/-- Enters a name. -/
def enter (m : LinkedModule) (name source : String) : LinkedModule :=
  { m with names := m.names.insert name source }

end LinkedModule

/-- Modules in the order of their creation, with links between them. -/
structure LinkedTree where
  modules : List LinkedModule := []
  /-- The modules at the top, by their names. -/
  roots : NameMap Nat := ∅

namespace LinkedTree

/-- The number of modules. -/
def size (t : LinkedTree) : Nat := t.modules.length

/-- The path of the module with a number. -/
def path? (t : LinkedTree) (id : Nat) : Option ModulePath := t.modules[id]?.map (·.path)

/-- The modules directly below a place, by their last segments. Above the modules at the top there is
none. -/
def below (t : LinkedTree) : Option Nat → NameMap Nat
  | none => t.roots
  | some id => (t.modules[id]?.map (·.children)).getD ∅

/-! ## Creating modules -/

/-- Adds a module below a place, and the link to it. -/
def attach (t : LinkedTree) (place : Option Nat) (path : ModulePath) (segment : String) : LinkedTree :=
  let modules := t.modules ++ [{ path, parent := place }]
  match place with
  | none => { modules, roots := t.roots.insert segment t.size }
  | some above =>
    { t with modules := modules.modify above (·.link segment t.size) }

/-- One step down from a place: the number of the module there, which is added when it is missing. -/
def step (t : LinkedTree) (place : Option Nat) (path : ModulePath) (segment : String) :
    Nat × LinkedTree :=
  match (t.below place).get? segment with
  | some id => (id, t)
  | none => (t.size, t.attach place path segment)

/-- The way down from a place, whose path is `walked`: at least one step. -/
def descend (t : LinkedTree) (place : Option Nat) (walked : ModulePath) (segment : String) :
    List String → Nat × LinkedTree
  | [] => t.step place (walked ++ [segment]) segment
  | next :: rest =>
    let (id, t) := t.step place (walked ++ [segment]) segment
    t.descend (some id) (walked ++ [segment]) next rest

/-- The number of the module that a path stands for, with all modules that are missing created. -/
def ensure (t : LinkedTree) : ModulePath → Nat × LinkedTree
  | [] => t.descend none [] "global" []
  | segment :: rest => t.descend none [] segment rest

/-- Reserves a name for a source type in the module with a number: the name, and the tree with it. -/
def claim (t : LinkedTree) (id : Nat) (preferred source : String) : String × LinkedTree :=
  let taken := (t.modules[id]?.map (·.names)).getD ∅
  let name := freshName preferred taken.keys
  (name, { t with modules := t.modules.modify id (·.enter name source) })

/-! ## Finding and listing modules -/

/-- The module at the end of some steps down from a place. -/
def follow (t : LinkedTree) (place : Option Nat) (segment : String) : List String → Option Nat
  | [] => (t.below place).get? segment
  | next :: rest => do t.follow (some (← (t.below place).get? segment)) next rest

/-- The number of the module at a path. There is none at the empty path. -/
def find? (t : LinkedTree) : ModulePath → Option Nat
  | [] => none
  | segment :: rest => t.follow none segment rest

/-- Visits the modules on a stack, each followed by those below it, in at most a number of turns. Links
that run in a circle would use up any number. -/
def walk (t : LinkedTree) : Nat → List Nat → Option (List Nat)
  | _, [] => some []
  | 0, _ :: _ => none
  | turns + 1, id :: rest => (t.walk turns ((t.below (some id)).values ++ rest)).map (id :: ·)

/-- The numbers of all modules, in the order of the walk from the top, which has a turn for each. -/
def sorted (t : LinkedTree) : Option (List Nat) := t.walk t.size t.roots.values

/-- The paths of all modules, in that order. -/
def sortedPaths (t : LinkedTree) : Option (List ModulePath) := t.sorted.map (·.filterMap t.path?)

/-! ## Specifiers -/

/-- A difference that is not negative. -/
def minus? (m n : Nat) : Option Nat := if n ≤ m then some (m - n) else none

/-- The first segments of a path, if it has as many. -/
def take? (path : ModulePath) (n : Nat) : Option ModulePath :=
  if n ≤ path.length then some (path.take n) else none

/-- The segments of a path from a position on that is not behind its end. -/
def drop? (path : ModulePath) (n : Nat) : Option ModulePath :=
  if n ≤ path.length then some (path.drop n) else none

/-- How the file of one module names that of another in an import, by their numbers. There is an answer
only where both modules are there, the steps up can be counted and the paths have the segments. -/
def specifier? (t : LinkedTree) (source target : Nat) : Option String := do
  let sourcePath ← t.path? source
  let targetPath ← t.path? target
  let sourceDirectory ← take? sourcePath (sourcePath.length - 1)
  let targetDirectory ← take? targetPath (targetPath.length - 1)
  let common := ((sourceDirectory.zip targetDirectory).takeWhile fun (a, b) => a == b).length
  let ups ← minus? sourceDirectory.length common
  let down := Text.joined '/' (← drop? targetPath common)
  return if ups = 0 then "./" ++ down else String.join (List.replicate ups "../") ++ down

/-- The modules without their links. -/
def tree (t : LinkedTree) : ModuleTree := ⟨t.modules.map LinkedModule.bare⟩

end LinkedTree

end TypeGraph
