import TypeGraph.Command.Execution

/-!
# The command line

Reads the files that a command asks for, executes it, and writes what it leaves.
-/

namespace TypeGraph.Command

/-- How the program is used. -/
def usage : String :=
  "error: unknown arguments\n\n" ++
  "Usage: tsbridge [--config FILE] [--log-level LEVEL] COMMAND\n\n" ++
  "Commands:\n" ++
  "  generate [--input FILE]... [--output DIR]\n" ++
  "  check\n" ++
  "  classify [--input FILE]... [--json]"

/-- The texts of those files that are there. -/
def readFiles (paths : List String) : IO Files := do
  let mut entries : List (String × String) := []
  for path in paths do
    try
      entries := (path, ← IO.FS.readFile path) :: entries
    catch _ => pure ()
  return ⟨entries.reverse⟩

/-- Writes a file and makes its directory. -/
def writeFile (file : Printed.File) : IO Unit := do
  match Path.parent? file.path with
  | some directory => if directory != "" then IO.FS.createDirAll directory
  | none => pure ()
  IO.FS.writeFile file.path file.content

/-- Does what a line asks for and reports on it. -/
def answer (request : Request) : IO UInt32 := do
  let configuration ← readFiles request.configuration?.toList
  let inputs ← readFiles (request.inputs configuration)
  let result := request.execute ⟨configuration.entries ++ inputs.entries⟩
  for warning in result.warnings do
    IO.eprintln (" WARN " ++ warning.message)
  result.written.forM writeFile
  IO.print result.output
  if let some failure := result.failure then
    IO.eprintln failure.line
  return result.exitCode.toUInt32

end TypeGraph.Command

/-- Does what the arguments ask for. -/
def main (args : List String) : IO UInt32 :=
  match TypeGraph.Command.Request.ofArguments? args with
  | some request => TypeGraph.Command.answer request
  | none => do
    IO.eprintln TypeGraph.Command.usage
    return TypeGraph.Command.unknownStatus.toUInt32
