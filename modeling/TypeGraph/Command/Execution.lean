import TypeGraph.Command.Arguments
import TypeGraph.Command.Check
import TypeGraph.Configuration.File
import TypeGraph.Printed.File
import TypeGraph.Run

/-!
# Execution of commands

A command is a function of the files that it can read: it leaves lines, files to write, warnings, and
a failure if it stops early. Which files it reads is known before it is executed.
-/

namespace TypeGraph.Command

/-- What a command leaves. -/
structure Result where
  /-- The text that it prints. -/
  output : String := ""
  /-- The files to write, in order. -/
  written : List Printed.File := []
  warnings : List Warning := []
  failure : Option Failure := none

/-- Lines as a text. -/
def lines (ls : List String) : String := String.join (ls.map (· ++ "\n"))

/-- The exit status after a command. -/
def Result.exitCode (r : Result) : Nat := (r.failure.map Failure.exitCode).getD 0

/-- The result of a command that did not fail, or of one that left nothing but its failure. -/
def Result.ofExcept : Except Failure Result → Result
  | .ok r => r
  | .error failure => { failure := some failure }

/-! ## What actions work with -/

/-- Inputs and the output directory of the command line in place of those configured. -/
def override (inputs : List String) (output : Option String) (c : Configuration) : Configuration :=
  { c with
    inputs := if inputs.isEmpty then c.inputs else inputs
    outputDirectory := output.getD c.outputDirectory }

/-- The configuration that an action works with. -/
def Action.configure (a : Action) (c : Configuration) : Configuration :=
  match a with
  | .generate inputs output => override inputs output c
  | .classify inputs _ => override inputs none c
  | .check => c

/-! ## Writing -/

/-- A file seen from a directory. -/
def inDirectory (directory : String) (f : Printed.File) : Printed.File :=
  { f with path := Path.join directory f.path }

/-- Writes files in order, up to the first that something is in the way of: the files that are written,
and what is in the way. -/
def writeAll (files : Files) : List Printed.File → List Printed.File × Option (String × Files.Obstacle)
  | [] => ([], none)
  | f :: rest =>
    match files.obstructed? f.path with
    | some found => ([], some found)
    | none =>
      let (written, found?) := writeAll (files.write f.path f.content) rest
      (f :: written, found?)

/-! ## Actions -/

/-- The name of the program and its version. -/
def nameAndVersion : String := "tsbridge 0.3.0"

/-- The modules of a configuration, with the paths where they go. If one of them cannot be written, those
before it are, and nothing is printed. -/
def generate (files : Files) (c : Configuration) : Except Failure Result := do
  let setup ← doing "Invalid configuration" c.setup
  let outcome ← doing "Generation failed" do
    setup.run (← Discovery.ofManifests files c.inputs c.packages)
  let modules := (Printed.files outcome.graph).map (inDirectory c.outputDirectory)
  match writeAll files modules with
  | (written, none) =>
    let total :=
      "✓ Generated " ++ toString written.length ++ " module file(s) in " ++ c.outputDirectory
    return {
      output := lines (written.map (fun f => "  " ++ f.path) ++ [total])
      written
      warnings := outcome.warnings }
  | (written, some (path, obstacle)) =>
    return {
      written
      warnings := outcome.warnings
      failure := some (.unwritten c.outputDirectory path obstacle) }

/-- The report on the candidates of a configuration. -/
def classify (files : Files) (c : Configuration) (asJson : Bool) : Except Failure Result := do
  let setup ← doing "Invalid configuration" c.setup
  let discovery ← doing "Type discovery failed" (Discovery.ofManifests files c.inputs c.packages)
  let report := Report.of setup discovery
  return { output := if asJson then lines [report.toJson.pretty] else report.text }

namespace Invocation

/-- The configuration of an invocation. Its paths are seen from the directory of its file. -/
def load (i : Invocation) (files : Files) : Except Failure Configuration :=
  doing ("Failed to load configuration: " ++ Text.quoted i.configuration) do
    match files.read? i.configuration with
    | none => throw (.absentFile i.configuration)
    | some text =>
      let c ← Configuration.ofText text
      return match Path.parent? i.configuration with
        | none => c
        | some base => c.resolvePaths base

/-- The result of an action on a configuration. -/
def perform (i : Invocation) (files : Files) (c : Configuration) : Result :=
  let c' := i.action.configure c
  match i.action with
  | .generate _ _ => .ofExcept (generate files c')
  | .classify _ asJson => .ofExcept (classify files c' asJson)
  | .check =>
    let first := "Checking configuration: " ++ i.configuration
    match check files c' with
    | .ok more => { output := lines (first :: more) }
    | .error failure => { output := lines [first], failure := some failure }

/-- The result of an invocation. -/
def execute (i : Invocation) (files : Files) : Result :=
  match i.load files with
  | .ok c => i.perform files c
  | .error failure => { failure := some failure }

/-- The paths that an invocation reads besides its configuration, as far as they are known from it. -/
def inputs (i : Invocation) (files : Files) : List String :=
  match i.load files with
  | .ok c => (i.action.configure c).inputs
  | .error _ => []

end Invocation

namespace Request

/-- The result of what a line asks for. -/
def execute (files : Files) : Request → Result
  | .version => { output := lines [nameAndVersion] }
  | .invocation i => i.execute files

/-- The configuration that is read for it. -/
def configuration? : Request → Option String
  | .version => none
  | .invocation i => some i.configuration

/-- The paths that are read besides it, as far as they are known from it. -/
def inputs (files : Files) : Request → List String
  | .version => []
  | .invocation i => i.inputs files

end Request

end TypeGraph.Command
