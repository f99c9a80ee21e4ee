import TypeGraph.Path

/-!
# Files of a directory

The files that a run reads and writes, by their paths from the directory it works in. A path may be
written in many ways: a file is found by the steps that lead to it, and a `..` takes back a step only
where there is a directory. A path that leaves the directory is only found as it is written.

A file is written together with the directories on the way to it. That cannot be done where a file is in
the place of a directory, or a directory in the place of the file.
-/

namespace TypeGraph

/-- Paths with the texts of the files there. -/
structure Files where
  entries : List (String × String) := []

namespace Files

/-- Whether some steps lead to a directory: there is a file below it. -/
def isDirectory (files : Files) (steps : List String) : Bool :=
  steps.isEmpty || files.entries.any fun (path, _) =>
    (Path.steps? path).any fun s => steps.isPrefixOf s && steps.length < s.length

/-- The steps to the place that a path leads to. -/
def locate? (files : Files) (path : String) : Option (List String) :=
  if Path.isAbsolute path then none
  else walk [] (Text.segments '/' path)
where
  /-- The steps after `done`, which holds the steps so far, last one first. -/
  walk (done : List String) : List String → Option (List String)
    | [] => some done.reverse
    | part :: rest =>
      if Path.isIdle part then
        if files.isDirectory done.reverse then walk done rest else none
      else if part == ".." then
        match done with
        | [] => none
        | _ :: before => if files.isDirectory done.reverse then walk before rest else none
      else walk (part :: done) rest

/-- The text of the file that a path leads to. -/
def read? (files : Files) (path : String) : Option String :=
  let steps := files.locate? path
  (files.entries.find? fun (p, _) =>
    p == path || steps.any fun s => Path.steps? p == some s).map (·.2)

/-- Whether a path leads to a file. -/
def isFile (files : Files) (path : String) : Bool := (files.read? path).isSome

/-- Whether two paths name the same file; directories between are made as needed. -/
def samePlace (a b : String) : Bool :=
  a == b || (Path.steps? a).any fun s => Path.steps? b == some s

/-- Writes a file, in place of the one that is there. -/
def write (files : Files) (path text : String) : Files :=
  if files.entries.any fun e => samePlace e.1 path then
    ⟨files.entries.map fun e => if samePlace e.1 path then (e.1, text) else e⟩
  else ⟨files.entries ++ [(path, text)]⟩

/-! ## Obstacles -/

/-- What is in the way of a file to write. -/
inductive Obstacle where
  /-- A file is where its directory would be. -/
  | file
  /-- A file is where a directory on the way would be. -/
  | fileOnWay
  /-- A directory is where it would be. -/
  | directory
  deriving DecidableEq, Repr

/-- What the system says of an obstacle. -/
def Obstacle.message : Obstacle → String
  | .file => "File exists (os error 17)"
  | .fileOnWay => "Not a directory (os error 20)"
  | .directory => "Is a directory (os error 21)"

/-- Whether there is a file where some steps lead. -/
def holds (files : Files) (steps : List String) : Bool :=
  files.entries.any fun (path, _) => Path.steps? path == some steps

/-- What is in the way of a directory, if anything; it is made with all directories on the way. -/
def blocked? (files : Files) (directory : String) : Option Obstacle :=
  if Path.isAbsolute directory then none
  else walk [] (Text.segments '/' directory)
where
  /-- The way after `done`, which holds the steps so far, last one first. -/
  walk (done : List String) : List String → Option Obstacle
    | [] => if files.holds done.reverse then some .file else none
    | part :: rest =>
      if files.holds done.reverse then some .fileOnWay
      else if Path.isIdle part then walk done rest
      else if part == ".." then
        match done with
        | [] => none
        | _ :: before => walk before rest
      else walk (part :: done) rest

/-- What is in the way of a file, if anything, and the path of what cannot be made: the directory of
the file, or the file itself. -/
def obstructed? (files : Files) (path : String) : Option (String × Obstacle) :=
  match (Path.parent? path).bind fun d => (files.blocked? d).map fun o => (d, o) with
  | some found => some found
  | none => if (Path.steps? path).any files.isDirectory then some (path, .directory) else none

end Files

end TypeGraph
