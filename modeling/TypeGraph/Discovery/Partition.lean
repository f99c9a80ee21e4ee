import TypeGraph.Discovery.Manifest
import TypeGraph.Files

/-!
# Discovery

The types that a run starts from: the candidates, which lie in the packages that were asked for, and
the other known types, which candidates may refer to. Types declared inside others count on their own,
after the type around them; annotations do not count, but types inside them do.
-/

namespace TypeGraph

/-- The outcome of a discovery. -/
structure Discovery where
  /-- The types in the packages that were asked for. -/
  candidates : List Descriptor := []
  /-- The other known types. -/
  references : List Descriptor := []
  failures : List LoadFailure := []

/-! ## Packages -/

/-- Whether a name lies in a package or below it. -/
def inPackage (name package : String) : Bool :=
  (package.toList ++ ['.']).isPrefixOf name.toList

/-- Whether a name lies in one of some packages. -/
def inPackages (name : String) (packages : List String) : Bool := packages.any (inPackage name)

/-! ## Types inside types -/

/-- A type without the types declared inside it. -/
def Descriptor.bare (d : Descriptor) : Descriptor := { d with nested := [] }

mutual

/-- The number of types in a type, itself included. -/
def Descriptor.count : Descriptor → Nat
  | ⟨_, _, _, _, _, _, _, _, _, nested⟩ => 1 + Descriptor.countAll nested

/-- The number of types in some types. -/
def Descriptor.countAll : List Descriptor → Nat
  | [] => 0
  | d :: rest => d.count + Descriptor.countAll rest

end

theorem Descriptor.count_eq (d : Descriptor) : d.count = 1 + Descriptor.countAll d.nested := by
  cases d
  simp only [Descriptor.count]

theorem Descriptor.countAll_append (xs ys : List Descriptor) :
    Descriptor.countAll (xs ++ ys) = Descriptor.countAll xs + Descriptor.countAll ys := by
  induction xs with
  | nil => simp [Descriptor.countAll]
  | cons d rest ih =>
    simp only [List.cons_append, Descriptor.countAll, ih]
    omega

/-- All types in some types, outer ones first. The types still to come are kept on a stack, so the
depth of nesting does not matter. -/
def flatten : List Descriptor → List Descriptor
  | [] => []
  | d :: rest =>
    have : Descriptor.countAll (d.nested ++ rest) < Descriptor.countAll (d :: rest) := by
      rw [Descriptor.countAll_append]
      simp only [Descriptor.countAll, Descriptor.count_eq d]
      omega
    d.bare :: flatten (d.nested ++ rest)
termination_by stack => Descriptor.countAll stack

/-! ## Discovery -/

namespace Discovery

/-- The discovery of some types: divided by package, in order. -/
def ofTypes (types : List Descriptor) (packages : List String) : Discovery :=
  let known := (flatten types).filter (·.kind != .annotationType)
  { candidates := known.filter fun d => inPackages d.name packages
    references := known.filter fun d => !inPackages d.name packages }

/-- The manifests at some paths, one after the other. The first that cannot be read decides. -/
def readAll (files : Files) : List String → Except Error Manifest
  | [] => .ok {}
  | path :: rest => do
    match files.read? path with
    | none => .error (.absentFile path)
    | some text =>
      let first ← Manifest.ofText path text
      let later ← readAll files rest
      return first.append later

/-- The discovery of the types in the manifests at some paths. -/
def ofManifests (files : Files) (paths : List String) (packages : List String) :
    Except Error Discovery :=
  if paths.isEmpty then .error (.config .noManifest)
  else do
    let manifest ← readAll files paths
    return { ofTypes manifest.types packages with failures := manifest.failures }

end Discovery

end TypeGraph
