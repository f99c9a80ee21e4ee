import TypeGraph.Pattern.Program.Layout

/-!
# States of words

A choice among words is laid out as a tree: words with the same beginning share its states. The order of
the words counts, as an earlier word is preferred to a later one; so a word that ends where another goes
on divides the ways out of a state into those before and those after it.
-/

namespace TypeGraph.Pattern.Program

/-- Words as lists of bytes. -/
abbrev Words := List (List Nat)

/-- The words before, between and after those that end, without the ends. -/
def groups : Words → List Words
  | [] => [[]]
  | [] :: rest => [] :: groups rest
  | word :: rest =>
    match groups rest with
    | [] => [[word]]
    | group :: others => (word :: group) :: others

/-- The number of ends that count. Ends that nothing goes on before count once. -/
def endCount (words : Words) : Nat :=
  (if words.head? = some [] then 1 else 0) + (words.dropWhile List.isEmpty).countP List.isEmpty

/-- The first bytes of some words. -/
def firstBytes (words : Words) : List Nat := (words.filterMap List.head?).eraseDups

/-- What follows a byte in the words that begin with it. -/
def following (byte : Nat) (words : Words) : Words :=
  words.filterMap fun
    | first :: rest => if first = byte then some rest else none
    | [] => none

/-- Lays out the tree of some words up to a depth. Every group of words is a state with a way for each
first byte, and a branch leads to the groups and the ends. -/
def layTree : Nat → Words → Build Unit
  | 0, _ => return ()
  | depth + 1, words =>
    if words.all List.isEmpty then return ()
    else do
      let groups := (groups words).filter (!·.isEmpty)
      groups.forM fun group => do
        let bytes := firstBytes group
        bytes.forM fun byte => layTree depth (following byte group)
        lay 1 (if bytes.length = 1 then 0 else rangeSize * bytes.length)
      lay 1 0
      layWays (groups.length + endCount words)

/-- The length of the longest word. -/
def longest (words : Words) : Nat := words.foldl (fun n word => max n word.length) 0

/-- The piece of a choice among words. -/
def layWords (words : Words) : Build Ending := do
  lay 1 0
  layTree (longest words + 1) words
  return .plain

end TypeGraph.Pattern.Program
