import TypeGraph.Filter.Basic
import TypeGraph.Pattern.Compiled

/-!
# Filters ready for use

A filter as it is written holds its patterns as texts. Making it ready compiles them in the order in
which they stand; the first that cannot be used decides.
-/

namespace TypeGraph

/-- A filter as it is written. -/
abbrev FilterSpec := Filter String

/-- A filter that types can be tested with. -/
abbrev ReadyFilter := Filter Pattern

/-- A pattern from its text. -/
def Pattern.ofText (text : String) : Except Error Pattern :=
  match Pattern.compile text with
  | .ok p => .ok p
  | .error fault => .error (.badPattern text fault)

namespace Filter

mutual

/-- Replaces every pattern by what `f` makes of it. -/
def traverse {π ρ : Type} (f : π → Except Error ρ) : Filter π → Except Error (Filter ρ)
  | .rejectAll => .ok .rejectAll
  | .acceptAll => .ok .acceptAll
  | .typeSet names => .ok (.typeSet names)
  | .hasMarker kind => .ok (.hasMarker kind)
  | .subtypeOf base => .ok (.subtypeOf base)
  | .nameContains text => .ok (.nameContains text)
  | .pattern p => (f p).map .pattern
  | .and filters => (traverseAll f filters).map .and
  | .or filters => (traverseAll f filters).map .or
  | .not filter => (filter.traverse f).map .not

/-- Replaces every pattern of some filters. -/
def traverseAll {π ρ : Type} (f : π → Except Error ρ) :
    List (Filter π) → Except Error (List (Filter ρ))
  | [] => .ok []
  | filter :: rest => do
    let first ← filter.traverse f
    let others ← traverseAll f rest
    return first :: others

end

/-- A filter made ready for use. -/
def ready (spec : FilterSpec) : Except Error ReadyFilter := spec.traverse Pattern.ofText

/-- Whether a filter accepts a type. -/
def selects (filter : ReadyFilter) (d : Descriptor) : Bool := filter.accepts Pattern.accepts d

/-- Why a filter accepts or rejects a type. -/
def reason (filter : ReadyFilter) (d : Descriptor) : String :=
  filter.explain Pattern.text Pattern.accepts d

end Filter

end TypeGraph
