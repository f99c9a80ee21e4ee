import TypeGraph.Text.Escaped

/-!
# Markers

Metadata on types, members and parameters. A marker has a kind, by which it is asked for, and some
kinds carry details.
-/

namespace TypeGraph

/-- The method of an endpoint. -/
inductive HttpMethod where
  | get
  | post
  | put
  | patch
  | delete
  | head
  | options
  deriving DecidableEq, Repr

/-- The method as it is written in requests. -/
def HttpMethod.verb : HttpMethod → String
  | .get => "GET"
  | .post => "POST"
  | .put => "PUT"
  | .patch => "PATCH"
  | .delete => "DELETE"
  | .head => "HEAD"
  | .options => "OPTIONS"

/-- Metadata attached to an element. -/
inductive Marker where
  /-- The element may be absent. -/
  | nullable
  /-- The type exposes endpoints. -/
  | restController
  /-- The path of an endpoint, or on a type the path before those of its endpoints. -/
  | requestMapping (path : String) (method : Option HttpMethod)
  /-- The parameter is the body of the request. -/
  | requestBody
  /-- The parameter is part of the path. -/
  | pathVariable (name : Option String)
  /-- The parameter is part of the query. -/
  | requestParam (name : Option String) (required : Bool)
  /-- The member is left out of serialised values. -/
  | jsonIgnore
  | other (name : String)
  deriving DecidableEq, Repr

/-- The kind of a marker, without its details. -/
inductive MarkerKind where
  | nullable
  | restController
  | requestMapping
  | requestBody
  | pathVariable
  | requestParam
  | jsonIgnore
  | other (name : String)
  deriving DecidableEq, Repr

namespace Marker

/-- What kind of marker this is. -/
def kind : Marker → MarkerKind
  | .nullable => .nullable
  | .restController => .restController
  | .requestMapping _ _ => .requestMapping
  | .requestBody => .requestBody
  | .pathVariable _ => .pathVariable
  | .requestParam _ _ => .requestParam
  | .jsonIgnore => .jsonIgnore
  | .other name => .other name

/-- Whether a marker of a kind is among some markers. -/
def has (kind : MarkerKind) (markers : List Marker) : Bool := markers.any (·.kind == kind)

/-- The path and method of the first mapping among some markers. -/
def mapping? : List Marker → Option (String × Option HttpMethod)
  | [] => none
  | .requestMapping path method :: _ => some (path, method)
  | _ :: rest => mapping? rest

theorem has_requestMapping_iff (markers : List Marker) :
    has .requestMapping markers = (mapping? markers).isSome := by
  induction markers with
  | nil => rfl
  | cons m rest ih =>
    have h : has .requestMapping (m :: rest) =
        ((m.kind == .requestMapping) || has .requestMapping rest) := rfl
    rw [h, ih]
    cases m <;> simp [kind, mapping?]

end Marker

/-- A kind as explanations show it. -/
def MarkerKind.label : MarkerKind → String
  | .nullable => "Nullable"
  | .restController => "RestController"
  | .requestMapping => "RequestMapping"
  | .requestBody => "RequestBody"
  | .pathVariable => "PathVariable"
  | .requestParam => "RequestParam"
  | .jsonIgnore => "JsonIgnore"
  | .other name => "Other(" ++ Text.quoted name ++ ")"

end TypeGraph
