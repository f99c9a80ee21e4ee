import TypeGraph.Text.Segments

/-!
# File paths

Paths are texts with `/` between their parts. Joining keeps what is written: an absolute path replaces
the base, and an empty one only closes the base with a separator.
-/

namespace TypeGraph.Path

/-- Whether a path starts at the root. -/
def isAbsolute (path : String) : Bool := path.toList.head? == some '/'

/-- `path` seen from `base`. -/
def join (base path : String) : String :=
  if isAbsolute path then path
  else if base.toList.isEmpty || base.toList.getLast? == some '/' then base ++ path
  else base ++ "/" ++ path

/-- Whether a part between separators leads nowhere. -/
def isIdle (part : String) : Bool := part == "" || part == "."

/-- A path without idle parts at its end; the first part always counts. -/
def dropIdleEnd (parts : List String) : List String :=
  (parts.reverse.dropWhile isIdle).reverse

/-- The path without its last part. The root and the empty path have no parent. -/
def parent? (path : String) : Option String :=
  match Text.segments '/' path with
  | [] => none
  | first :: rest =>
    match (dropIdleEnd rest).dropLast, dropIdleEnd rest with
    | _, [] => if first == "" then none else some ""
    | before, _ =>
      match dropIdleEnd before with
      | [] => some (if first == "" then "/" else first)
      | kept => some (Text.joined '/' (first :: kept))

/-- The parts that lead somewhere, with each `..` taking back the part before it. There are none
for a path that leaves the directory it starts from. -/
def steps? (path : String) : Option (List String) :=
  if isAbsolute path then none
  else walk [] (Text.segments '/' path)
where
  /-- The steps after `done`, which holds the steps so far, last one first. -/
  walk (done : List String) : List String → Option (List String)
    | [] => some done.reverse
    | part :: rest =>
      if isIdle part then walk done rest
      else if part == ".." then
        match done with
        | [] => none
        | _ :: before => walk before rest
      else walk (part :: done) rest

end TypeGraph.Path
