import TypeGraph.Filter.Ready
import TypeGraph.Source.Written

/-!
# Filters written as values

A filter is a record that is tagged with its type.
-/

namespace TypeGraph.Filter

mutual

/-- A filter, tagged with its type. -/
def toJson : FilterSpec → Json
  | .rejectAll => .record [("type", .text "reject_all")]
  | .acceptAll => .record [("type", .text "accept_all")]
  | .typeSet names => .record [("type", .text "type_set"), ("names", .texts names)]
  | .hasMarker kind => .record [("type", .text "has_marker"), ("marker", kind.toJson)]
  | .subtypeOf base => .record [("type", .text "extends"), ("base", .text base)]
  | .nameContains text => .record [("type", .text "name_contains"), ("text", .text text)]
  | .pattern text => .record [("type", .text "regex"), ("pattern", .text text)]
  | .and filters => .record [("type", .text "and"), ("filters", .list (listToJson filters))]
  | .or filters => .record [("type", .text "or"), ("filters", .list (listToJson filters))]
  | .not filter => .record [("type", .text "not"), ("filter", filter.toJson)]

/-- Filters one by one. -/
def listToJson : List FilterSpec → List Json
  | [] => []
  | f :: rest => f.toJson :: listToJson rest

end

theorem listToJson_eq_map (filters : List FilterSpec) : listToJson filters = filters.map toJson := by
  induction filters with
  | nil => rfl
  | cons f rest ih => simp [listToJson, ih]

end TypeGraph.Filter
