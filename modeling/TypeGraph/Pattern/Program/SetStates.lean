import TypeGraph.Pattern.Program.Memo
import TypeGraph.Unicode.Utf8

/-!
# States of sets

A set of ASCII characters is one state. Any other set is laid out by the byte sequences of its characters:
read forwards as a tree, whose states are finished as soon as no further sequence passes through them;
read backwards as one chain for each sequence.
-/

namespace TypeGraph.Pattern.Program

open Unicode (Ranges)
open Unicode.Utf8 (ByteRange)

/-- The direction in which a program reads a text. -/
inductive Direction where
  | forwards
  | backwards
  deriving DecidableEq

/-! ## Forwards -/

/-- The number of slots for states that are read forwards. -/
def forwardSlots : Nat := 10000

/-- A state of the tree that is not finished: the ways that are, last one first, and the range of the one
that is not. A way is its range and the number of the state that it leads to. -/
structure OpenState where
  ways : List (ByteRange × Nat) := []
  last : Option ByteRange := none

namespace OpenState

/-- Finishes the last way with the state that it leads to. -/
def lead (s : OpenState) (target : Nat) : OpenState :=
  match s.last with
  | none => s
  | some range => { ways := (range, target) :: s.ways }

/-- The numbers that tell a finished state apart. -/
def key (s : OpenState) : List Nat := s.ways.reverse.flatMap fun ((low, high), n) => [low, high, n]

/-- Lays out a finished state. -/
def finish (s : OpenState) : SetBuild Nat :=
  remembered forwardSlots (rangeSize * s.ways.length) s.key

end OpenState

/-- Finishes states that lead to each other, the last of them to the end of the tree: the number of the
first. -/
def finishAll (endState : Nat) : List OpenState → SetBuild Nat
  | [] => return endState
  | s :: rest => do (s.lead (← finishAll endState rest)).finish

/-- Adds a byte sequence to the states of the one before it. Where they part, the states of the one
before are finished. -/
def addSequence (endState : Nat) : List OpenState → List ByteRange → SetBuild (List OpenState)
  | s :: rest, range :: ranges =>
    if s.last = some range then return s :: (← addSequence endState rest ranges)
    else do
      let target ← finishAll endState rest
      return { s.lead target with last := some range } :: ranges.map fun range => { last := some range }
  | path, _ => return path

/-- The states of a set, read forwards. -/
def layForwards (sequences : List (List ByteRange)) : SetBuild Unit := do
  let endState ← layState 0
  let path ← sequences.foldlM (addSequence endState) [{}]
  discard (finishAll endState path)

/-! ## Backwards -/

/-- The number of slots for states that are read backwards. -/
def backwardSlots : Nat := 1000

/-- The chain of a byte sequence, from the number of the state that its first byte leads to: the number
of the state at its last byte. -/
def layChain (sequence : List ByteRange) (endState : Nat) : SetBuild Nat :=
  sequence.foldlM (fun target (low, high) => remembered backwardSlots 0 [target, low, high]) endState

/-- The states of a set, read backwards: a branch to the chains of its sequences. -/
def layBackwards (sequences : List (List ByteRange)) : SetBuild Unit := do
  lay 1 0
  let endState ← layState 0
  sequences.forM fun sequence => do
    discard (layChain sequence endState)
    layWays 1

/-! ## Sets -/

/-- The piece of a set. -/
def laySet (direction : Direction) (chars : Ranges) : Build Ending := do
  if chars.bounds.all fun bounds => bounds.2 < 0x80 then
    lay 2 (rangeSize * chars.bounds.length)
  else
    let sequences := Unicode.Utf8.sequences chars
    match direction with
    | .forwards => (layForwards sequences).run' ∅
    | .backwards => (layBackwards sequences).run' ∅
  return .plain

end TypeGraph.Pattern.Program
