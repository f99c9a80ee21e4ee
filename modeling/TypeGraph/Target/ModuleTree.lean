import TypeGraph.Names
import TypeGraph.Path
import TypeGraph.Source.Descriptor
import TypeGraph.Target.FreshName

/-!
# Modules of the output

The modules that declarations are put into form a tree by their paths. A module is known by its path;
creating one creates all modules above it. Within a module every exported name belongs to one source
type, and a name that is taken gets a number.
-/

namespace TypeGraph

/-- The path of a module, from the top. -/
abbrev ModulePath := List String

namespace ModulePath

/-- The module of types outside any package. -/
def global : ModulePath := ["global"]

/-- The non-empty beginnings of a path, shortest first. -/
def beginnings : ModulePath → List ModulePath
  | [] => []
  | s :: rest => [s] :: (beginnings rest).map (s :: ·)

/-- The path as it is shown. -/
def shown (path : ModulePath) : String := Text.joined '/' path

/-- The file of a module, relative to the output directory: a directory for each module above it. -/
def file (path : ModulePath) : String :=
  match path.getLast? with
  | none => ""
  | some last => Path.join (path.dropLast.foldl Path.join "") (last ++ ".ts")

/-- The path of the module above, if there is one. -/
def parent? (path : ModulePath) : Option ModulePath :=
  if path.length ≤ 1 then none else some path.dropLast

/-- Whether one path comes before another: segment by segment, a path before those that go on. -/
def before : ModulePath → ModulePath → Bool
  | [], [] => false
  | [], _ :: _ => true
  | _ :: _, [] => false
  | a :: p, b :: q => a < b || (a = b && before p q)

/-- The steps that two paths have in common at their beginning. -/
def commonLength : ModulePath → ModulePath → Nat
  | a :: p, b :: q => if a = b then commonLength p q + 1 else 0
  | _, _ => 0

/-- How the file of one module names that of another in an import: up to the last directory on both
ways, then down. -/
def specifier (source target : ModulePath) : String :=
  let common := commonLength source.dropLast target.dropLast
  let ups := source.dropLast.length - common
  let down := Text.joined '/' (target.drop common)
  if ups = 0 then "./" ++ down else String.join (List.replicate ups "../") ++ down

end ModulePath

/-- A module: its path, and the source type behind every name that it exports. -/
structure Module where
  path : ModulePath
  names : NameMap String := ∅

/-- The modules of a run in the order of their creation. -/
structure ModuleTree where
  modules : List Module := []

namespace ModuleTree

/-- The module at a path. -/
def find? (t : ModuleTree) (path : ModulePath) : Option Module :=
  t.modules.find? (·.path == path)

/-- Whether there is a module at a path. -/
def contains (t : ModuleTree) (path : ModulePath) : Bool := t.modules.any (·.path == path)

/-- The number of modules. -/
def size (t : ModuleTree) : Nat := t.modules.length

/-- Adds the module at a path when it is missing. -/
def add (t : ModuleTree) (path : ModulePath) : ModuleTree :=
  if t.contains path then t else ⟨t.modules ++ [{ path := path }]⟩

/-- The module that a path stands for: the empty path stands for the global module. -/
def resolve (path : ModulePath) : ModulePath := if path.isEmpty then .global else path

/-- Creates the module that a path stands for, with all modules above it that are missing. -/
def ensure (t : ModuleTree) (path : ModulePath) : ModuleTree :=
  (resolve path).beginnings.foldl add t

/-- The modules directly below a path, in the order of their names. -/
def children (t : ModuleTree) (path : ModulePath) : List Module :=
  (t.modules.filter fun m => m.path.length == path.length + 1 && path.isPrefixOf m.path).mergeSort
    fun a b => !b.path.before a.path

/-- The modules at the top, in the order of their names. -/
def roots (t : ModuleTree) : List Module := t.children []

/-- All modules in the order of their paths. -/
def sorted (t : ModuleTree) : List Module :=
  t.modules.mergeSort fun a b => !b.path.before a.path

/-- The names that the module at a path exports. -/
def namesAt (t : ModuleTree) (path : ModulePath) : List String :=
  match t.find? path with
  | some m => m.names.keys
  | none => []

/-- The name under which a module will export a declaration: the preferred one if it is free. -/
def freeName (t : ModuleTree) (path : ModulePath) (preferred : String) : String :=
  freshName preferred (t.namesAt path)

/-- Enters a name into the module at a path. -/
def enter (t : ModuleTree) (path : ModulePath) (name source : String) : ModuleTree :=
  ⟨t.modules.map fun m =>
    if m.path = path then { m with names := m.names.insert name source } else m⟩

/-- Reserves a name for a source type in the module at a path: the name, and the tree with it. -/
def reserve (t : ModuleTree) (path : ModulePath) (preferred source : String) : String × ModuleTree :=
  let name := t.freeName path preferred
  (name, t.enter path name source)

end ModuleTree

/-! ## Which module a type belongs to -/

/-- How packages become modules. -/
inductive Placement where
  /-- The first segments of a package are one module at the top, the others are nested in it. -/
  | byDepth (depth : Nat)
  /-- Every type is in the module of this name. -/
  | single (name : String)

namespace Placement

/-- The path of a package when its first `depth` segments are joined. Empty segments do not count;
a package without segments belongs to the global module. -/
def packagePath (depth : Nat) (package : String) : ModulePath :=
  let segments := (Text.segments '.' package).filter (· ≠ "")
  if segments.isEmpty then .global
  else Text.joined '.' (segments.take (max depth 1)) :: segments.drop (max depth 1)

/-- The path of the module that a source type belongs to. -/
def path (p : Placement) (d : Descriptor) : ModulePath :=
  match p with
  | .byDepth depth => packagePath depth d.package
  | .single name => [name]

end Placement

end TypeGraph
