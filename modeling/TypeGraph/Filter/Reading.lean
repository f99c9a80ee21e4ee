import TypeGraph.Filter.Written
import TypeGraph.Source.Reading

/-!
# Filters read from values

The decoder of filters accepts the written form, and also a list that starts with the tag. Patterns
are taken as they are; whether they can be used shows when the filter is made ready. A filter is kept as a
value until its tag is known, and such a value has room for integers of 64 bits only; a document without
`null` may hold wider ones elsewhere.
-/

namespace TypeGraph.Filter

open Json (Decoded)

/-- The tags of filters. -/
inductive Tag where
  | rejectAll
  | acceptAll
  | typeSet
  | hasMarker
  | subtypeOf
  | nameContains
  | pattern
  | and
  | or
  | not

/-- The tags of filters by name. -/
def Tag.all : List (String × Tag) :=
  [("reject_all", .rejectAll), ("accept_all", .acceptAll), ("type_set", .typeSet),
   ("has_marker", .hasMarker), ("extends", .subtypeOf), ("name_contains", .nameContains),
   ("regex", .pattern), ("and", .and), ("or", .or), ("not", .not)]

/-- A filter. -/
def ofJson (manner : Json.Manner) (v : Json) : Decoded FilterSpec := do
  if manner = .withoutNull ∧ !v.narrow then throw (.wrongType v "integer of 64 bits")
  let tagged ← Json.asTagged "type" "FilterSpec" v
  let bare (filter : FilterSpec) : Decoded FilterSpec := do
    (tagged.form "" []).settle []
    return filter
  match ← tagged.variant manner Tag.all with
  | .rejectAll => bare .rejectAll
  | .acceptAll => bare .acceptAll
  | .typeSet =>
    let form := tagged.form "FilterSpec::TypeSet" ["names"]
    let names := form.get "names" (Json.listOf Json.asText)
    form.settle [names.fault?]
    return .typeSet (← names.required form)
  | .hasMarker =>
    let form := tagged.form "FilterSpec::HasMarker" ["marker"]
    let marker := form.get "marker" (MarkerKind.ofJson .tagged)
    form.settle [marker.fault?]
    return .hasMarker (← marker.required form)
  | .subtypeOf =>
    let form := tagged.form "FilterSpec::Extends" ["base"]
    let base := form.get "base" Json.asText
    form.settle [base.fault?]
    return .subtypeOf (← base.required form)
  | .nameContains =>
    let form := tagged.form "FilterSpec::NameContains" ["text"]
    let text := form.get "text" Json.asText
    form.settle [text.fault?]
    return .nameContains (← text.required form)
  | .pattern =>
    let form := tagged.form "FilterSpec::Regex" ["pattern"]
    let text := form.get "pattern" Json.asText
    form.settle [text.fault?]
    return .pattern (← text.required form)
  | .and =>
    let form := tagged.form "FilterSpec::And" ["filters"]
    let filters := form.read "filters" fun w => Json.asList w.1 fun x => ofJson manner.inTagged x.1
    form.settle [filters.fault?]
    return .and (← filters.required form)
  | .or =>
    let form := tagged.form "FilterSpec::Or" ["filters"]
    let filters := form.read "filters" fun w => Json.asList w.1 fun x => ofJson manner.inTagged x.1
    form.settle [filters.fault?]
    return .or (← filters.required form)
  | .not =>
    let form := tagged.form "FilterSpec::Not" ["filter"]
    let filter := form.read "filter" fun w => ofJson manner.inTagged w.1
    form.settle [filter.fault?]
    return .not (← filter.required form)
termination_by sizeOf v
decreasing_by
  · exact Nat.lt_trans x.2 w.2
  · exact Nat.lt_trans x.2 w.2
  · exact w.2

end TypeGraph.Filter
