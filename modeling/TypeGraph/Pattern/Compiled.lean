import TypeGraph.Error
import TypeGraph.Pattern.Matching
import TypeGraph.Pattern.Meaning
import TypeGraph.Pattern.Parser
import TypeGraph.Pattern.Program.Size

/-!
# Compiled patterns

A pattern is a text that follows the grammar of patterns, names only classes that exist, and whose
program is not too large. It accepts the texts in which a match occurs anywhere.
-/

namespace TypeGraph

/-- A pattern that can be used, with its text. -/
structure Pattern where
  text : String
  matcher : Pattern.Matcher

namespace Pattern

/-- The pattern that a text stands for. -/
def compile (text : String) : Except PatternFault Pattern :=
  match (parse? text).bind (Expr.matcher? {}) with
  | none => .error .grammar
  | some (matcher, _) =>
    if matcher.fits then .ok { text, matcher } else .error (.tooLarge sizeLimit)

/-- Whether a text holds a match. -/
def accepts (p : Pattern) (text : String) : Bool := p.matcher.matches text

end Pattern

end TypeGraph
