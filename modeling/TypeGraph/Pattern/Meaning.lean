import TypeGraph.Pattern.Matcher

/-!
# Meaning of patterns

The matcher that a pattern stands for. A pattern is read with the options that hold where it stands, and
leaves those that hold after it.
-/

namespace TypeGraph.Pattern

open Unicode (Ranges)

/-- A literal. A code of two digits beyond ASCII is no character without the Unicode option. -/
def literalMatcher? (o : Options) (c : Char) (byte : Bool) : Option Matcher :=
  if !o.unicode && byte && c.toNat > 0x7f then none
  else if !o.unicode && c.toNat > 0x7f then some (.literal [c])
  else some (.ofSet (foldCase o (.single c)))

/-- Any character, except line ends unless they are included. It needs the Unicode option. -/
def dotMatcher? (o : Options) : Option Matcher :=
  if !o.unicode then none
  else if o.dotMatchesNewline then some (.ofSet anyCharacter)
  else if o.carriageReturn then
    some (.ofSet (Ranges.union [.single '\r', .single '\n']).complement)
  else some (.ofSet (Ranges.single '\n').complement)

/-- A condition with the options resolved. -/
def anchorLook (o : Options) : Anchor → Look
  | .lineStart => if o.multiLine then .lineStart o.carriageReturn else .textStart
  | .lineEnd => if o.multiLine then .lineEnd o.carriageReturn else .textEnd
  | .textStart => .textStart
  | .textEnd => .textEnd
  | kind => .word kind o.unicode

mutual

/-- The matcher of a pattern, and the options after it. -/
def Expr.matcher? (o : Options) : Expr → Option (Matcher × Options)
  | .empty => some (.empty, o)
  | .flags settings => some (.empty, o.apply settings)
  | .literal c byte => (literalMatcher? o c byte).map fun m => (m, o)
  | .dot => (dotMatcher? o).map fun m => (m, o)
  | .anchor kind => some (.look (anchorLook o kind), o)
  | .shorthand kind negated => (shorthandRanges? o kind negated).map fun set => (.ofSet set, o)
  | .property name negated => (propertyRanges? o name negated).map fun set => (.ofSet set, o)
  | .bracketed negated set =>
    ((set.ranges? o).bind (foldAndNegate? o negated)).map fun set => (.ofSet set, o)
  | .repeated body min max greedy => do
    let (m, after) ← body.matcher? o
    return (m.repetition min max (greedy != after.swapGreed), after)
  | .group settings captures body => do
    let (m, _) ← body.matcher? (o.apply settings)
    return (if captures then .capture m else m, o)
  | .concat parts => do
    let (ms, after) ← Expr.matchers? o parts
    return (.sequence ms, after)
  | .alternation parts => do
    let (ms, after) ← Expr.matchers? o parts
    return (.choice ms, after)

/-- The matchers of some patterns, each with the options after the one before it. -/
def Expr.matchers? (o : Options) : List Expr → Option (List Matcher × Options)
  | [] => some ([], o)
  | part :: rest => do
    let (m, o) ← part.matcher? o
    let (ms, o) ← Expr.matchers? o rest
    return (m :: ms, o)

end

end TypeGraph.Pattern
