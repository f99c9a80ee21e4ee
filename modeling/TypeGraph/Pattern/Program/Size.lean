import TypeGraph.Pattern.Matcher
import TypeGraph.Pattern.Program.SetStates
import TypeGraph.Pattern.Program.WordStates

/-!
# Size of patterns

A repetition multiplies its body, so a short pattern can have a huge program. A matcher has two programs:
one reads a text forwards and keeps where groups begin and end, the other reads it backwards. A pattern is
refused if one of them is too large.
-/

namespace TypeGraph.Pattern

open Program

/-! ## Anchors -/

mutual

/-- Whether every match begins at the beginning of the text, or, backwards, ends at its end. -/
def Matcher.isAnchored (direction : Direction) : Matcher → Bool
  | .look .textStart => direction = .forwards
  | .look .textEnd => direction = .backwards
  | .repeated body min _ _ => min > 0 && body.isAnchored direction
  | .capture body => body.isAnchored direction
  | .concat parts =>
    match direction with
    | .forwards => Matcher.isAnchoredFirst parts
    | .backwards => Matcher.isAnchoredLast parts
  | .alternation parts => Matcher.areAnchored direction parts
  | _ => false

/-- Whether the first matcher of some that is not always empty is anchored, or one before it. -/
def Matcher.isAnchoredFirst : List Matcher → Bool
  | [] => false
  | m :: rest =>
    m.isAnchored .forwards || (m.lengths.most = some 0 && Matcher.isAnchoredFirst rest)

/-- Whether the last matcher of some that is not always empty is anchored, or one after it. -/
def Matcher.isAnchoredLast : List Matcher → Bool
  | [] => false
  | m :: rest =>
    Matcher.isAnchoredLast rest ||
      ((Matcher.lengthsThrough rest).most = some 0 && m.isAnchored .backwards)

/-- Whether all of some matchers are anchored. -/
def Matcher.areAnchored (direction : Direction) : List Matcher → Bool
  | [] => true
  | m :: rest => m.isAnchored direction && Matcher.areAnchored direction rest

end

/-! ## Pieces -/

/-- The text that a matcher stands for. -/
def Matcher.text? : Matcher → Option (List Char)
  | .literal text => some text
  | _ => none

/-- The words of a choice among texts, as they are read in a direction. -/
def words? (direction : Direction) (ms : List Matcher) : Option Words :=
  (ms.mapM Matcher.text?).map fun texts =>
    let words := texts.map bytesOf
    match direction with
    | .forwards => words
    | .backwards => words.map List.reverse

/-- Leads from a branch to a piece, and from its end to a common state. -/
def layAlternative (ending : Ending) : Build Unit := do
  layWays 1
  ending.lead

mutual

/-- Lays out the piece of a matcher. -/
def Matcher.layOut (direction : Direction) : Matcher → Build Ending
  | .empty => single
  | .literal text => do
    lay (bytesOf text).length 0
    return .plain
  | .set chars => laySet direction chars
  | .look _ => single
  | .repeated body min max _ =>
    Program.repeated (body.layOut direction) (body.lengths.least.any (· > 0)) min max
  | .capture body =>
    match direction with
    | .forwards => do
      lay 1 0
      let ending ← body.layOut direction
      lay 1 0
      ending.lead
      return .plain
    | .backwards => body.layOut direction
  | .concat parts => Matcher.layOutThrough direction parts
  | .alternation parts =>
    match words? direction parts with
    | some words => layWords words
    | none => Matcher.layOutAmong direction parts

/-- Lays out matchers one after the other, in the order in which they are read. -/
def Matcher.layOutThrough (direction : Direction) : List Matcher → Build Ending
  | [] => single
  | [m] => m.layOut direction
  | m :: rest =>
    match direction with
    | .forwards => do
      (← m.layOut direction).lead
      Matcher.layOutThrough direction rest
    | .backwards => do
      (← Matcher.layOutThrough direction rest).lead
      m.layOut direction

/-- Lays out a choice among matchers. The branch and the common end come after the first two. -/
def Matcher.layOutAmong (direction : Direction) : List Matcher → Build Ending
  | [] => single
  | [m] => m.layOut direction
  | m :: n :: rest => do
    let first ← m.layOut direction
    let second ← n.layOut direction
    lay 2 0
    layAlternative first
    layAlternative second
    Matcher.layOutMore direction rest
    return .plain

/-- Lays out further alternatives. -/
def Matcher.layOutMore (direction : Direction) : List Matcher → Build Unit
  | [] => return ()
  | m :: rest => do
    layAlternative (← m.layOut direction)
    Matcher.layOutMore direction rest

end

/-! ## Programs -/

/-- What goes before the piece of a matcher. Unless the matcher is anchored, it is a loop over any
bytes, so that a match can begin anywhere. -/
def layStart (anchored : Bool) : Build Ending :=
  if anchored then single
  else do
    lay 3 rangeSize
    layWays 1
    return .branch

/-- The program of a matcher. The whole match is kept like that of a group. -/
def Matcher.layProgram (m : Matcher) (direction : Direction) : Build Unit := do
  let start ← layStart (m.isAnchored direction)
  let ending ← (Matcher.capture m).layOut direction
  lay 1 0
  ending.lead
  start.lead

/-- Whether both programs of a matcher keep to the limit. -/
def Matcher.fits (m : Matcher) : Bool :=
  [Direction.forwards, .backwards].all fun direction => (m.layProgram direction {}).isSome

end TypeGraph.Pattern
