import TypeGraph.Error
import TypeGraph.Files

/-!
# Failures of a command

Why a command stops: an error while something was being done, an input that is not there, or something in
the way of a file that was to be written. The line on it names what was being done, the error, and what
lies behind the error.
-/

namespace TypeGraph.Command

/-- Why a command stops. -/
inductive Failure where
  | during (doing : String) (cause : Error)
  | absentInput (path : String)
  /-- A path below the output directory cannot be made. -/
  | unwritten (directory path : String) (obstacle : Files.Obstacle)

namespace Failure

/-- What lies behind an error, if it is not part of its own wording. -/
def behind : Error → String
  | .absentFile _ => ": " ++ Error.absence
  | _ => ""

/-- The line on a failure. -/
def line : Failure → String
  | .during doing cause => "Error: " ++ doing ++ ": " ++ cause.message ++ behind cause
  | .absentInput path => "Error: Type manifest not found: " ++ path
  | .unwritten directory path obstacle =>
    "Error: Failed to write modules to " ++ Text.quoted directory ++ ": I/O error on " ++
      Text.quoted path ++ ": " ++ obstacle.message ++ ": " ++ obstacle.message

/-- The exit status after a failure. -/
def exitCode : Failure → Nat
  | .during _ cause => cause.exitCode
  | .absentInput _ => 1
  | .unwritten _ _ _ => 4

end Failure

/-- A step of a command, which can fail while doing something. -/
def doing {α : Type} (what : String) (step : Except Error α) : Except Failure α :=
  step.mapError (.during what)

end TypeGraph.Command
