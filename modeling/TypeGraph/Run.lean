import TypeGraph.Classification.Exploration
import TypeGraph.Classification.Report
import TypeGraph.Conversion.State
import TypeGraph.Target.Graph

/-!
# Runs

A run takes what was discovered to the output graph: the candidates are classified, the classification
is explored, the modules of all classified types are created, and the types are converted role by role.
A run fails only when types of a role were found and nothing converts them.
-/

namespace TypeGraph

/-- The result of a run. -/
structure Outcome where
  graph : Graph
  warnings : List Warning

namespace Setup

/-- The index of a discovery; candidates go before other types. -/
def index (discovery : Discovery) : Index :=
  Index.ofList (discovery.candidates ++ discovery.references)

/-- What a run over some types knows beforehand. -/
def env (s : Setup) (index : Index) : Env :=
  { index, custom := s.custom, placement := s.placement }

/-- The classification of a run: that of the candidates, explored. Of candidates with the same identity
the first one counts. -/
def classification (s : Setup) (index : Index) (candidates : List Descriptor) : Classification :=
  (s.classify (candidates.filterMap fun d => index.find? d.name)).explore
    { index, custom := s.custom }

/-- Fails when a role has types but no converter. -/
def checkConverters (s : Setup) (c : Classification) : Except Error Unit :=
  if !c.models.isEmpty && s.converters.model.isNone then .error (.missingConverter .model)
  else if !c.rests.isEmpty && s.converters.rest.isNone then .error (.missingConverter .rest)
  else .ok ()

/-- The warnings that come before conversion. -/
def earlyWarnings (s : Setup) (discovery : Discovery) (index : Index) (c : Classification) :
    List Warning :=
  discovery.failures.map (fun f => .notLoaded f.name f.reason) ++
    (c.restMentions { index, custom := s.custom }).map fun (model, rest) => .modelUsesRest model rest

/-- Converts the types of a role, if there is a converter for it. -/
def convertRole (s : Setup) (index : Index) (converter : Option Converter) (names : Names)
    (state : Conversion) : Except Error Conversion :=
  match converter with
  | none => .ok state
  | some c =>
    state.convertRole (s.env index) s.nullability s.converters c (names.toList.filterMap index.find?)

/-- Converts all classified types: enums, then models, then types with endpoints. -/
def convertAll (s : Setup) (index : Index) (c : Classification) : Except Error Conversion := do
  let types := (c.enums.toList ++ c.models.toList ++ c.rests.toList).filterMap index.find?
  let state := types.foldl (Conversion.place (s.env index)) {}
  let state ← s.convertRole index (some .enum) c.enums state
  let state ← s.convertRole index s.converters.model c.models state
  s.convertRole index s.converters.rest c.rests state

/-- The run over a discovery. -/
def run (s : Setup) (discovery : Discovery) : Except Error Outcome := do
  let index := index discovery
  let c := s.classification index discovery.candidates
  s.checkConverters c
  let state ← s.convertAll index c
  return {
    graph := { modules := state.modules, table := state.table }
    warnings := s.earlyWarnings discovery index c ++ state.warnings }

end Setup

end TypeGraph
