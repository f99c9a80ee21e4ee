/-!
# Layout of programs

A pattern is carried out as a program: states that are passed through from one to the next. How the
states are laid out is known before any of them is carried out; here they are only counted, with the bytes
that they take. Laying out stops as soon as a program is too large.
-/

namespace TypeGraph.Pattern

/-- The bytes that a program may take. -/
def sizeLimit : Nat := 10 * Nat.pow 2 20

namespace Program

/-- The bytes of a state by itself. -/
def stateSize : Nat := 32

/-- The bytes of a way out of a state with several ranges of bytes. -/
def rangeSize : Nat := 8

/-- The bytes of a way out of a branch. -/
def branchSize : Nat := 4

/-- What is laid out so far: the number of states, and the bytes that they take besides. -/
structure Layout where
  states : Nat := 0
  extra : Nat := 0

/-- The bytes of a layout. -/
def Layout.bytes (l : Layout) : Nat := stateSize * l.states + l.extra

/-- A step of laying out a program. There is no result if the program gets too large. -/
abbrev Build := StateT Layout Option

/-- Lays out some states, and bytes besides. -/
def lay (states extra : Nat) : Build Unit := fun l =>
  let l : Layout := { states := l.states + states, extra := l.extra + extra }
  if l.bytes ≤ sizeLimit then some ((), l) else none

/-- Lays out a state that takes some bytes besides. States are known by their numbers. -/
def layState (extra : Nat) : Build Nat := do
  let number := (← get).states
  lay 1 extra
  return number

/-- How a piece of a program ends: in a state with one way out, or in a branch, which keeps a list of the
ways out. -/
inductive Ending where
  | plain
  | branch

/-- A piece of one state with one way out. -/
def single : Build Ending := do
  lay 1 0
  return .plain

/-- Ways out of branches. -/
def layWays (ways : Nat) : Build Unit := lay 0 (branchSize * ways)

/-- Leads from the end of a piece to another state. -/
def Ending.lead : Ending → Build Unit
  | .plain => pure ()
  | .branch => layWays 1

/-! ## Repetitions -/

/-- A piece a given number of times. -/
def times (body : Build Ending) : Nat → Build Ending
  | 0 => single
  | 1 => body
  | n + 2 => do
    (← body).lead
    times body (n + 1)

/-- A piece a given number of times or more often. A piece that never is empty comes back to the branch
before it; one that may be empty has a branch of its own to come back to. -/
def timesAtLeast (body : Build Ending) (neverEmpty : Bool) : Nat → Build Ending
  | 0 =>
    if neverEmpty then do
      lay 1 0
      (← body).lead
      layWays 1
      return .branch
    else do
      (← body).lead
      lay 3 0
      layWays 4
      return .plain
  | 1 => do
    (← body).lead
    lay 1 0
    layWays 1
    return .branch
  | n + 2 => do
    (← times body (n + 1)).lead
    (← body).lead
    lay 1 0
    layWays 1
    return .branch

/-- A piece a number of times at most, each time behind a branch, after a piece with some ending. -/
def optionalTimes (body : Build Ending) : Nat → Ending → Build Ending
  | 0, ending => do
    ending.lead
    return .plain
  | n + 1, ending => do
    lay 1 0
    let next ← body
    ending.lead
    layWays 2
    optionalTimes body n next

/-- A piece once at most. -/
def optional (body : Build Ending) : Build Ending := do
  lay 1 0
  let ending ← body
  lay 1 0
  layWays 2
  ending.lead
  return .plain

/-- A piece repeated. -/
def repeated (body : Build Ending) (neverEmpty : Bool) (min : Nat) : Option Nat → Build Ending
  | none => timesAtLeast body neverEmpty min
  | some max =>
    if min = 0 ∧ max = 1 then optional body
    else if min = max then times body min
    else do
      let ending ← times body min
      lay 1 0
      optionalTimes body (max - min) ending

end Program

end TypeGraph.Pattern
