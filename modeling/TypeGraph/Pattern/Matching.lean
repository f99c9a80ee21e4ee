import TypeGraph.Pattern.Matcher

/-!
# Matching

Where a matcher can end is computed for all places where it can start at once: the places of a text are
marked, and every part of a matcher carries the marks on. A repetition is carried on until no new mark
appears. A text matches when some place remains marked that was reached from any place; which of several
matches comes first does not matter here.
-/

namespace TypeGraph.Pattern

/-! ## Places -/

/-- A place between characters: those before and after it. -/
structure Place where
  before : Option Char
  after : Option Char

/-- The places of a text, where `before` is the character before it. -/
def places (before : Option Char) : List Char → List Place
  | [] => [{ before, after := none }]
  | c :: rest => { before, after := some c } :: places (some c) rest

/-- Whether an optional character is one of words. -/
def isWordAt (unicode : Bool) (c : Option Char) : Bool :=
  c.any fun c => if unicode then Unicode.isWordCharacter c else c.isAlphanum || c = '_'

/-- Whether a condition holds at a place. -/
def Look.holds (p : Place) : Look → Bool
  | .textStart => p.before.isNone
  | .textEnd => p.after.isNone
  | .lineStart false => p.before.isNone || p.before = some '\n'
  | .lineStart true =>
    p.before.isNone || p.before = some '\n' ||
      (p.before = some '\r' && p.after ≠ some '\n')
  | .lineEnd false => p.after.isNone || p.after = some '\n'
  | .lineEnd true =>
    p.after.isNone || p.after = some '\r' ||
      (p.after = some '\n' && p.before ≠ some '\r')
  | .word kind unicode =>
    let before := isWordAt unicode p.before
    let after := isWordAt unicode p.after
    match kind with
    | .notWordBoundary => before == after
    | .wordStart => !before && after
    | .wordEnd => before && !after
    | .wordStartHalf => !before
    | .wordEndHalf => !after
    | _ => before != after

/-! ## Marks -/

/-- A mark or none for every place of a text. -/
abbrev Marks := List Bool

/-- The marks of either of two. -/
def Marks.or (a b : Marks) : Marks := a.zipWith (· || ·) b

/-- Moves marks over one character of a set. -/
def advance (accepts : Char → Bool) (ps : List Place) (marks : Marks) : Marks :=
  false :: (marks.zipWith (fun mark (p : Place) => mark && p.after.any accepts) ps).dropLast

/-- Keeps marks where a condition holds. -/
def keep (look : Look) (ps : List Place) (marks : Marks) : Marks :=
  marks.zipWith (fun mark (p : Place) => mark && look.holds p) ps

/-- Carries marks on a given number of times, or until they do not change any more. -/
def carry (step : Marks → Marks) : Nat → Marks → Marks
  | 0, marks => marks
  | n + 1, marks =>
    let next := step marks
    if next = marks then marks else carry step n next

/-- Adds all marks that are reached within a number of steps, and stops when there are no new ones. -/
def spread (step : Marks → Marks) : Nat → Marks → Marks
  | 0, marks => marks
  | n + 1, marks =>
    let next := Marks.or marks (step marks)
    if next = marks then marks else spread step n next

mutual

/-- The places where a matcher can end when it starts at a marked one. -/
def Matcher.reach (ps : List Place) : Matcher → Marks → Marks
  | .empty, marks => marks
  | .literal text, marks => text.foldl (fun marks c => advance (· = c) ps marks) marks
  | .set chars, marks => advance chars.contains ps marks
  | .look condition, marks => keep condition ps marks
  | .repeated body min max _, marks =>
    let rounds := match max with
      | none => ps.length
      | some max => Nat.min (max - min) ps.length
    spread (body.reach ps) rounds (carry (body.reach ps) min marks)
  | .capture body, marks => body.reach ps marks
  | .concat parts, marks => Matcher.reachThrough ps parts marks
  | .alternation parts, marks => Matcher.reachAny ps parts marks

/-- The places reached through some matchers one after the other. -/
def Matcher.reachThrough (ps : List Place) : List Matcher → Marks → Marks
  | [], marks => marks
  | m :: rest, marks => Matcher.reachThrough ps rest (m.reach ps marks)

/-- The places reached by any of some matchers. -/
def Matcher.reachAny (ps : List Place) : List Matcher → Marks → Marks
  | [], marks => marks.map fun _ => false
  | m :: rest, marks => Marks.or (m.reach ps marks) (Matcher.reachAny ps rest marks)

end

/-- Whether a text holds a match. -/
def Matcher.matches (m : Matcher) (text : String) : Bool :=
  let ps := places none text.toList
  (m.reach ps (ps.map fun _ => true)).any id

end TypeGraph.Pattern
