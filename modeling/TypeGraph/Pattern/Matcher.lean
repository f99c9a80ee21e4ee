import TypeGraph.Pattern.Class

/-!
# Matchers

A pattern with its options resolved is a matcher. The functions that make matchers keep them simple:
texts side by side are one text, sequences and choices are not nested in their like, a choice among
characters is a set, and what all alternatives begin with stands before the choice.
-/

namespace TypeGraph.Pattern

open Unicode (Ranges)

/-- Conditions on a place with the options resolved. -/
inductive Look where
  | textStart
  | textEnd
  | lineStart (carriageReturn : Bool)
  | lineEnd (carriageReturn : Bool)
  | word (kind : Anchor) (unicode : Bool)
  deriving DecidableEq, Repr

/-- A pattern with its options resolved. The ranges of a set are ascending and do not touch. -/
inductive Matcher where
  | empty
  | literal (text : List Char)
  | set (chars : Ranges)
  | look (condition : Look)
  | repeated (body : Matcher) (min : Nat) (max : Option Nat) (greedy : Bool)
  | capture (body : Matcher)
  | concat (parts : List Matcher)
  | alternation (parts : List Matcher)

/-! ## Lengths -/

/-- The bytes that a match has at least, if there can be one, and at most, if they are bounded. -/
structure Lengths where
  least : Option Nat
  most : Option Nat

namespace Lengths

/-- The lengths of matches that all have the same. -/
def exactly (n : Nat) : Lengths := ⟨some n, some n⟩

/-- Both of two numbers, combined. -/
def both (f : Nat → Nat → Nat) : Option Nat → Option Nat → Option Nat
  | some m, some n => some (f m n)
  | _, _ => none

/-- The lengths of two matches one after the other. -/
def after (a b : Lengths) : Lengths := ⟨both (· + ·) a.least b.least, both (· + ·) a.most b.most⟩

/-- The lengths of either of two matches. -/
def or (a b : Lengths) : Lengths := ⟨both Nat.min a.least b.least, both Nat.max a.most b.most⟩

/-- The lengths of a number of matches one after the other. -/
def times (a : Lengths) (min : Nat) (max : Option Nat) : Lengths :=
  ⟨a.least.map (· * min), both (· * ·) a.most max⟩

/-- The lengths of the characters of a set. -/
def ofSet (chars : Ranges) : Lengths :=
  let size (code : Nat) := (Char.ofNat code).utf8Size
  ⟨chars.bounds.head?.map fun bounds => size bounds.1,
    chars.bounds.getLast?.map fun bounds => size bounds.2⟩

end Lengths

/-- The bytes of a text. -/
def bytesOf (text : List Char) : List Nat :=
  (text.flatMap String.utf8EncodeChar).map UInt8.toNat

mutual

/-- How long the matches of a matcher are. -/
def Matcher.lengths : Matcher → Lengths
  | .empty => .exactly 0
  | .literal text => .exactly (bytesOf text).length
  | .set chars => .ofSet chars
  | .look _ => .exactly 0
  | .repeated body min max _ => body.lengths.times min max
  | .capture body => body.lengths
  | .concat parts => Matcher.lengthsThrough parts
  | .alternation parts => Matcher.lengthsAmong parts

/-- How long the matches of some matchers one after the other are. -/
def Matcher.lengthsThrough : List Matcher → Lengths
  | [] => .exactly 0
  | m :: rest => m.lengths.after (Matcher.lengthsThrough rest)

/-- How long the matches of any of some matchers are. -/
def Matcher.lengthsAmong : List Matcher → Lengths
  | [] => ⟨none, none⟩
  | [m] => m.lengths
  | m :: rest => m.lengths.or (Matcher.lengthsAmong rest)

end

/-! ## Sameness -/

mutual

/-- Whether two matchers are the same. A group that captures is the same as no other, since each has a
place of its own. -/
def Matcher.same : Matcher → Matcher → Bool
  | .empty, .empty => true
  | .literal a, .literal b => a == b
  | .set a, .set b => a.bounds == b.bounds
  | .look a, .look b => a == b
  | .repeated a min max greedy, .repeated b min' max' greedy' =>
    min == min' && max == max' && greedy == greedy' && a.same b
  | .concat as, .concat bs => Matcher.sameAll as bs
  | .alternation as, .alternation bs => Matcher.sameAll as bs
  | _, _ => false

/-- Whether the matchers of two lists are the same one by one. -/
def Matcher.sameAll : List Matcher → List Matcher → Bool
  | [], [] => true
  | a :: as, b :: bs => a.same b && Matcher.sameAll as bs
  | _, _ => false

end

namespace Matcher

/-! ## Sets -/

/-- The matcher of the characters of a set. A single one is a text. -/
def ofSet (chars : Ranges) : Matcher :=
  let chars := chars.normal
  match chars.bounds with
  | [(low, high)] => if low = high then .literal [Char.ofNat low] else .set chars
  | _ => .set chars

/-! ## Sequences -/

/-- The matchers that a matcher is a sequence of. -/
def parts : Matcher → List Matcher
  | .concat ms => ms
  | m => [m]

/-- A matcher before others. Texts side by side become one, and what is empty is left out. -/
def before : Matcher → List Matcher → List Matcher
  | .empty, ms => ms
  | .literal a, .literal b :: ms => .literal (a ++ b) :: ms
  | m, ms => m :: ms

/-- Matchers one after the other. -/
def sequence (ms : List Matcher) : Matcher :=
  match (ms.flatMap parts).foldr before [] with
  | [] => .empty
  | [m] => m
  | ms => .concat ms

/-! ## Choices -/

/-- The matchers that a matcher is a choice among. -/
def choices : Matcher → List Matcher
  | .alternation ms => ms
  | m => [m]

/-- The character that a matcher stands for, if it is a single one. -/
def char? : Matcher → Option Char
  | .literal [c] => some c
  | _ => none

/-- The set that a matcher stands for. -/
def set? : Matcher → Option Ranges
  | .set chars => some chars
  | _ => none

/-- A choice among matchers, which is a set if all of them are characters or all are sets. -/
def anyOf (ms : List Matcher) : Matcher :=
  match ms.flatMap choices with
  | [] => .set ⟨[]⟩
  | [m] => m
  | ms =>
    match ms.mapM char?, ms.mapM set? with
    | some chars, _ => ofSet (.union (chars.map .single))
    | none, some sets => ofSet (.union sets)
    | none, none => .alternation ms

/-- What two lists of matchers begin with in common. -/
def sharedStart : List Matcher → List Matcher → List Matcher
  | a :: as, b :: bs => if a.same b then a :: sharedStart as bs else []
  | _, _ => []

/-- What several sequences begin with in common. There is nothing of the kind if one of the matchers is
no sequence. -/
def sharedParts : List Matcher → List Matcher
  | .concat first :: second :: rest =>
    (second :: rest).foldl (fun shared m =>
      match m with
      | .concat parts => sharedStart shared parts
      | _ => []) first
  | _ => []

/-- A choice among matchers. What all of them begin with stands before the choice. -/
def choice (ms : List Matcher) : Matcher :=
  let ms := ms.flatMap choices
  match sharedParts ms with
  | [] => anyOf ms
  | shared =>
    sequence (shared ++ [anyOf (ms.map fun m => sequence (m.parts.drop shared.length))])

/-! ## Repetitions -/

/-- A matcher repeated. Repeating what is always empty more than once adds nothing. -/
def repetition (body : Matcher) (min : Nat) (max : Option Nat) (greedy : Bool) : Matcher :=
  let (min, max) :=
    if body.lengths.most = some 0 then (Nat.min min 1, some (Nat.min (max.getD 1) 1)) else (min, max)
  match min, max with
  | 0, some 0 => .empty
  | 1, some 1 => body
  | min, max => .repeated body min max greedy

end Matcher

end TypeGraph.Pattern
