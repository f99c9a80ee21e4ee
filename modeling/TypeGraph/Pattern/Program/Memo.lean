import Std.Data.HashMap
import TypeGraph.Pattern.Program.Layout

/-!
# States that are shared

States of a set that lead on in the same way are laid out once. What is laid out is remembered in a
table with a bounded number of slots, in which a later state takes the place of an earlier one with the
same slot; an earlier one that was lost this way is laid out again.
-/

namespace TypeGraph.Pattern.Program

/-- The states that are remembered: by slot, what tells a state apart and its number. -/
abbrev Memo := Std.HashMap Nat (List Nat × Nat)

/-- A step of laying out the states of a set. -/
abbrev SetBuild := StateT Memo Build

/-- One number added to a hash: both are joined bit by bit, and the result times a prime is cut to 64
bits. -/
def mix (hash : UInt64) (n : Nat) : UInt64 := (hash ^^^ UInt64.ofNat n) * 1099511628211

/-- The hash of some numbers. -/
def hashOf (key : List Nat) : UInt64 := key.foldl mix 14695981039346656037

/-- The number of a state that is told apart by a key. If it is not remembered among a number of slots,
it is laid out with some bytes besides. -/
def remembered (slots extra : Nat) (key : List Nat) : SetBuild Nat := do
  let slot := (hashOf key).toNat % slots
  match (← get)[slot]? with
  | some (known, number) => if known == key then return number else layNew slot
  | none => layNew slot
where
  /-- Lays out a new state and remembers it in a slot. -/
  layNew (slot : Nat) : SetBuild Nat := do
    let number ← layState extra
    modify (·.insert slot (key, number))
    return number

end TypeGraph.Pattern.Program
