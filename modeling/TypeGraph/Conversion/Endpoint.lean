/-!
# Paths of endpoints

The path of an endpoint is the path on its type followed by its own. Slashes where the two meet count
as one, and the whole starts with a slash.
-/

namespace TypeGraph.Endpoint

/-- Characters without the slashes at their end. -/
def trimEnd (path : List Char) : List Char := (path.reverse.dropWhile (· = '/')).reverse

/-- Characters without the slashes at their beginning. -/
def trimStart (path : List Char) : List Char := path.dropWhile (· = '/')

/-- The two parts with one slash between them, if neither is empty. -/
def meet (base path : List Char) : List Char :=
  if base.isEmpty then path
  else if path.isEmpty then base
  else base ++ '/' :: path

/-- A path that starts with a slash. -/
def rooted (path : List Char) : List Char :=
  if path.head? = some '/' then path else '/' :: path

/-- The path of an endpoint below a base path. -/
def joinPath (base path : String) : String :=
  String.ofList (rooted (meet (trimEnd base.toList) (trimStart path.toList)))

end TypeGraph.Endpoint
