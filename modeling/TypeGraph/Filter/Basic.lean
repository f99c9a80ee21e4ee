import TypeGraph.Names
import TypeGraph.Source.Descriptor

/-!
# Filters

A filter selects source types. Filters combine with "and", "or" and "not"; an "and" of nothing selects
nothing, so that a filter never selects a type by accident. Patterns are held in a form `π` that is
left open: as texts when a filter is read or written, and ready for use when types are tested.
-/

namespace TypeGraph

/-- A condition on source types. -/
inductive Filter (π : Type) where
  | rejectAll
  | acceptAll
  /-- The identity is one of those listed. -/
  | typeSet (names : List String)
  /-- The type carries a marker of a kind. -/
  | hasMarker (kind : MarkerKind)
  /-- A direct supertype has an identity. -/
  | subtypeOf (base : String)
  /-- The simple name contains a text. -/
  | nameContains (text : String)
  /-- The identity matches a pattern. -/
  | pattern (pattern : π)
  /-- Every filter accepts, and there is one. -/
  | and (filters : List (Filter π))
  /-- Some filter accepts. -/
  | or (filters : List (Filter π))
  | not (filter : Filter π)

namespace Filter

variable {π : Type}

/-! ## Acceptance -/

mutual

/-- Whether a filter accepts a type, where `matched` tells which texts a pattern accepts. -/
def accepts (matched : π → String → Bool) (d : Descriptor) : Filter π → Bool
  | .rejectAll => false
  | .acceptAll => true
  | .typeSet names => names.contains d.name
  | .hasMarker kind => Marker.has kind d.markers
  | .subtypeOf base => d.directlyExtends base
  | .nameContains text => Text.occursIn text.toList d.simpleName.toList
  | .pattern p => matched p d.name
  | .and filters => !filters.isEmpty && allAccept matched d filters
  | .or filters => anyAccepts matched d filters
  | .not filter => !filter.accepts matched d

/-- Whether all of some filters accept a type. -/
def allAccept (matched : π → String → Bool) (d : Descriptor) : List (Filter π) → Bool
  | [] => true
  | f :: rest => f.accepts matched d && allAccept matched d rest

/-- Whether one of some filters accepts a type. -/
def anyAccepts (matched : π → String → Bool) (d : Descriptor) : List (Filter π) → Bool
  | [] => false
  | f :: rest => f.accepts matched d || anyAccepts matched d rest

end

/-! ## Explanations -/

/-- The outcome of a test, in a word. -/
def verdict (accepted : Bool) : String := if accepted then "accepted" else "rejected"

/-- What `explain` says of a test with a label. -/
def finding (label : String) (d : Descriptor) (accepted : Bool) : String :=
  label ++ ": " ++ d.name ++ " " ++ verdict accepted

mutual

/-- Why a filter accepts or rejects a type, where `shown` gives the text of a pattern. -/
def explain (shown : π → String) (matched : π → String → Bool) (d : Descriptor) : Filter π → String
  | .rejectAll => "RejectAll: " ++ d.name ++ " rejected, no accept policy configured"
  | .acceptAll => "AcceptAll: " ++ d.name ++ " accepted"
  | .typeSet names =>
    finding "TypeSet" d (names.contains d.name) ++
      " (set of " ++ toString (Names.ofList names).size ++ ")"
  | .hasMarker kind => finding ("HasMarker(" ++ kind.label ++ ")") d (Marker.has kind d.markers)
  | .subtypeOf base => finding ("Extends(" ++ base ++ ")") d (d.directlyExtends base)
  | .nameContains text =>
    finding ("NameContains(" ++ Text.quoted text ++ ")") d
      (Text.occursIn text.toList d.simpleName.toList)
  | .pattern p => finding ("Regex(" ++ shown p ++ ")") d (matched p d.name)
  | .and filters =>
    "And[" ++ "; ".intercalate (explainAll shown matched d filters) ++ "] => " ++
      verdict (accepts matched d (.and filters))
  | .or filters =>
    "Or[" ++ "; ".intercalate (explainAll shown matched d filters) ++ "] => " ++
      verdict (accepts matched d (.or filters))
  | .not filter =>
    "Not[" ++ filter.explain shown matched d ++ "] => " ++ verdict (!filter.accepts matched d)

/-- Why each of some filters accepts or rejects a type. -/
def explainAll (shown : π → String) (matched : π → String → Bool) (d : Descriptor) :
    List (Filter π) → List String
  | [] => []
  | f :: rest => f.explain shown matched d :: explainAll shown matched d rest

end

/-! ## Parts -/

mutual

/-- The conditions that a filter is made of. -/
def leaves : Filter π → List (Filter π)
  | .and filters => leavesOf filters
  | .or filters => leavesOf filters
  | .not filter => filter.leaves
  | leaf => [leaf]

/-- The conditions that some filters are made of. -/
def leavesOf : List (Filter π) → List (Filter π)
  | [] => []
  | f :: rest => f.leaves ++ leavesOf rest

end

mutual

/-- Whether a filter has no negation in it. -/
def isPositive : Filter π → Bool
  | .and filters => arePositive filters
  | .or filters => arePositive filters
  | .not _ => false
  | _ => true

/-- Whether some filters have no negation in them. -/
def arePositive : List (Filter π) → Bool
  | [] => true
  | f :: rest => f.isPositive && arePositive rest

end

end Filter

end TypeGraph
