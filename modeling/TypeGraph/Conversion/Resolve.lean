import TypeGraph.Conversion.Mapping
import TypeGraph.Source.Index
import TypeGraph.Target.ModuleTree

/-!
# Resolving references

The target of a reference, and the identities that have to be declared for it. Both are functions of
the reference and of what is known about the run beforehand: a custom target comes first, then the
target of a library type, then the declaration of the type itself. A declared type that is used with
too few arguments gets `any` for each missing one, and a type that cannot be declared is `any`.
-/

namespace TypeGraph

/-- What stays fixed during a run. -/
structure Env where
  index : Index
  custom : CustomTypes
  placement : Placement

namespace Env

variable (env : Env)

/-- Whether a declaration can be made for an identity on demand: it is known, no custom target stands
for it, and it is no annotation. -/
def isDeclarable (name : String) : Bool :=
  match env.index.find? name with
  | some d => d.kind != .annotationType && !env.custom.contains name
  | none => false

/-- The number of type parameters of a known type. -/
def arity (name : String) : Nat := ((env.index.find? name).map (·.typeParams.length)).getD 0

/-- Arguments filled up to a number with `any`. -/
def fillUp (count : Nat) (args : List TypeExpr) : List TypeExpr :=
  args ++ List.replicate (count - args.length) .any

/-! ## Targets -/

mutual

/-- The target of a reference, where `declared` tells the identities that have a declaration or can
get one. -/
def target (declared : String → Bool) : TypeRef → TypeExpr
  | .primitive p => .keyword p.keyword
  | .array element => .array (target declared element)
  | .typeVar name => .parameter name
  | .named name args =>
    match env.custom.get? name with
    | some chosen => chosen
    | none =>
      match Builtin.of? name with
      | some builtin => builtin.target (targetAt declared builtin.argument? args)
      | none =>
        if declared name then
          .apply (.declared name) (fillUp (env.arity name) (targets declared args))
        else .any

/-- The targets of some references. -/
def targets (declared : String → Bool) : List TypeRef → List TypeExpr
  | [] => []
  | t :: rest => target declared t :: targets declared rest

/-- The target of the reference at a position; `any` where there is none. -/
def targetAt (declared : String → Bool) : Option Nat → List TypeRef → TypeExpr
  | none, _ => .any
  | some _, [] => .any
  | some 0, t :: _ => target declared t
  | some (n + 1), _ :: rest => targetAt declared (some n) rest

end

theorem targets_eq_map (declared : String → Bool) (refs : List TypeRef) :
    env.targets declared refs = refs.map (env.target declared) := by
  induction refs with
  | nil => rfl
  | cons t rest ih => simp [targets, ih]

/-! ## Needs -/

mutual

/-- The identities whose declarations a reference needs, in the order in which they are resolved:
arguments before the type that they are applied to. -/
def needs : TypeRef → List String
  | .primitive _ | .typeVar _ => []
  | .array element => needs element
  | .named name args =>
    match env.custom.get? name with
    | some _ => []
    | none =>
      match Builtin.of? name with
      | some builtin => needsAt builtin.argument? args
      | none => needsOf args ++ [name]

/-- The identities that some references need, in order. -/
def needsOf : List TypeRef → List String
  | [] => []
  | t :: rest => needs t ++ needsOf rest

/-- The identities that the reference at a position needs. -/
def needsAt : Option Nat → List TypeRef → List String
  | none, _ => []
  | some _, [] => []
  | some 0, t :: _ => needs t
  | some (n + 1), _ :: rest => needsAt (some n) rest

end

end Env

end TypeGraph
