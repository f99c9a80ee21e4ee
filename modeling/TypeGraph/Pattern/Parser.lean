import TypeGraph.Pattern.Lexical

/-!
# Reading patterns

A pattern is read from left to right with the open groups on a stack, and within a class with the open
brackets on another. Every step takes at least one character, so as many steps as there are characters
are enough. A pattern may not be nested deeper than 250 levels.
-/

namespace TypeGraph.Pattern

/-- The greatest depth of a pattern. -/
def maxDepth : Nat := 250

/-! ## Classes -/

/-- An open bracket: whether the class is reversed, the operation that waits for its right side, and
the items so far, last one first. -/
structure Bracket where
  negated : Bool
  pending : Option (SetExpr × SetOp) := none
  items : List SetExpr := []

namespace Bracket

/-- Adds an item. -/
def push (b : Bracket) (item : SetExpr) : Bracket := { b with items := item :: b.items }

/-- What the bracket holds so far. -/
def set (b : Bracket) : SetExpr :=
  let right := SetExpr.ofItems b.items.reverse
  match b.pending with
  | none => right
  | some (left, op) => .op op left right

/-- Makes what the bracket holds the left side of an operation. -/
def startOp (b : Bracket) (op : SetOp) : Bracket :=
  { negated := b.negated, pending := some (b.set, op) }

end Bracket

/-- Dashes at the beginning of a class stand for themselves. -/
def leadingDashes (spaced : Bool) (b : Bracket) : List Char → Bracket × List Char
  | '-' :: rest => leadingDashes spaced (b.push (.literal '-' false)) (tidy spaced rest)
  | cs => (b, cs)
termination_by cs => cs.length
decreasing_by exact Nat.lt_succ_of_le (length_tidy_le spaced rest)

/-- The beginning of a class, after its bracket. A closing bracket that comes first stands for
itself. -/
def openBracket? (spaced : Bool) (cs : List Char) : Option (Bracket × List Char) :=
  let (negated, cs) := match tidy spaced cs with
    | '^' :: rest => (true, tidy spaced rest)
    | cs => (false, cs)
  let (b, cs) := leadingDashes spaced { negated := negated } cs
  let (b, cs) := match b.items, cs with
    | [], ']' :: rest => (b.push (.literal ']' false), tidy spaced rest)
    | _, cs => (b, cs)
  if cs.isEmpty then none else some (b, cs)

/-- The names of ASCII classes. -/
def asciiNames : List String :=
  ["alnum", "alpha", "ascii", "blank", "cntrl", "digit", "graph", "lower", "print", "punct", "space",
   "upper", "word", "xdigit"]

/-- An ASCII class such as `[:alpha:]`, after its first bracket. -/
def asciiClass? (cs : List Char) : Option (SetExpr × List Char) :=
  match cs with
  | ':' :: rest =>
    let (negated, rest) := match rest with
      | '^' :: rest => (true, rest)
      | rest => (false, rest)
    let name := String.ofList (rest.takeWhile (· ≠ ':'))
    match rest.dropWhile (· ≠ ':') with
    | ':' :: ']' :: left =>
      if asciiNames.contains name then some (.ascii name negated, left) else none
    | _ => none
  | _ => none

/-- One item of a class, as a pattern of its own. -/
def setItem? (spaced : Bool) : List Char → Option (Expr × List Char)
  | [] => none
  | '\\' :: rest => escape? spaced rest
  | c :: rest => some (.literal c false, rest)

/-- A pattern as an item of a class. Conditions on places are none. -/
def asSetItem? : Expr → Option SetExpr
  | .literal c byte => some (.literal c byte)
  | .shorthand kind negated => some (.shorthand kind negated)
  | .property name negated => some (.property name negated)
  | _ => none

/-- The first character that is neither blank nor the first number sign, if a sign may still come. -/
def firstSeen? (sign : Bool) : List Char → Option Char
  | [] => none
  | c :: rest =>
    if Unicode.isWhiteSpace c then firstSeen? sign rest
    else if sign && c = '#' then firstSeen? false rest
    else some c

/-- The character that decides whether a dash joins: the next one. Where spaces are ignored, blanks and
a number sign are looked past, though not the comment that the sign starts, unless nothing follows. -/
def seenAfterDash? (spaced : Bool) (cs : List Char) : Option Char :=
  if spaced then firstSeen? true cs <|> cs.head? else cs.head?

/-- An item of a class, or a range of two literals joined by a dash. A dash before the closing
bracket or before another dash does not join. -/
def setRange? (spaced : Bool) (cs : List Char) : Option (SetExpr × List Char) := do
  let (low, left) ← setItem? spaced cs
  let left := tidy spaced left
  let single := (asSetItem? low).map fun item => (item, left)
  match left with
  | [] => none
  | '-' :: rest =>
    if [some ']', some '-'].contains (seenAfterDash? spaced rest) then single
    else
      let (high, left) ← setItem? spaced (tidy spaced rest)
      match low, high with
      | .literal a aByte, .literal b bByte =>
        if a ≤ b then some (.range a b aByte bByte, left) else none
      | _, _ => none
  | _ => single

/-- A class, after its first bracket: `b` is the innermost open bracket and `outer` are those around
it. The number of steps bounds the work. -/
def setBody? (spaced : Bool) :
    Nat → Bracket → List Bracket → List Char → Option (Expr × List Char)
  | 0, _, _, _ => none
  | steps + 1, b, outer, cs =>
    match tidy spaced cs with
    | [] => none
    | '[' :: rest =>
      match asciiClass? rest with
      | some (item, left) => setBody? spaced steps (b.push item) outer left
      | none => do
        let (inner, left) ← openBracket? spaced rest
        setBody? spaced steps inner (b :: outer) left
    | ']' :: rest =>
      match outer with
      | [] => some (.bracketed b.negated b.set, rest)
      | o :: outer => setBody? spaced steps (o.push (.bracketed b.negated b.set)) outer rest
    | '&' :: '&' :: rest => setBody? spaced steps (b.startOp .inter) outer rest
    | '-' :: '-' :: rest => setBody? spaced steps (b.startOp .diff) outer rest
    | '~' :: '~' :: rest => setBody? spaced steps (b.startOp .symmDiff) outer rest
    | cs => do
      let (item, left) ← setRange? spaced cs
      setBody? spaced steps (b.push item) outer left

/-- A class, after its first bracket. -/
def bracketed? (spaced : Bool) (cs : List Char) : Option (Expr × List Char) := do
  let (b, left) ← openBracket? spaced cs
  setBody? spaced (left.length + 1) b [] left

/-! ## Groups and repetitions -/

/-- The pattern so far inside one group: the finished choices and the parts of the current one, last
ones first. -/
structure Level where
  choices : List Expr := []
  parts : List Expr := []

namespace Level

/-- Adds a part. -/
def push (l : Level) (part : Expr) : Level := { l with parts := part :: l.parts }

/-- Starts another choice. -/
def next (l : Level) : Level := { choices := .ofParts l.parts.reverse :: l.choices }

/-- The whole pattern. -/
def whole (l : Level) : Expr := .ofChoices (l.next.choices.reverse)

end Level

/-- An open group: what is around it, its options, and whether spaces are ignored around it. -/
structure Frame where
  around : Level
  settings : Settings
  captures : Bool
  spaced : Bool

/-- The state of reading. -/
structure Parser where
  level : Level := {}
  frames : List Frame := []
  spaced : Bool := false
  names : List String := []

namespace Parser

/-- Opens a group. -/
def enter (p : Parser) (settings : Settings) (captures : Bool) : Parser :=
  { p with
    level := {}
    frames := { around := p.level, settings, captures, spaced := p.spaced } :: p.frames
    spaced := (settings.value? .ignoreSpace).getD p.spaced }

/-- What follows an opening parenthesis. Looking around is not supported. -/
def group? (p : Parser) (cs : List Char) : Option (Parser × List Char) :=
  let named (rest : List Char) : Option (Parser × List Char) := do
    let (name, left) ← groupName? rest
    if p.names.contains name then none
    else return ({ p.enter [] true with names := name :: p.names }, left)
  match tidy p.spaced cs with
  | '?' :: '=' :: _ | '?' :: '!' :: _ | '?' :: '<' :: '=' :: _ | '?' :: '<' :: '!' :: _ => none
  | '?' :: 'P' :: '<' :: rest => named rest
  | '?' :: '<' :: rest => named rest
  | '?' :: rest => do
    let (settings, left) ← settings? [] false false rest
    match left with
    | ')' :: left =>
      if settings.isEmpty then none
      else
        return ({ p with
          level := p.level.push (.flags settings)
          spaced := (settings.value? .ignoreSpace).getD p.spaced }, left)
    | _ :: left => return (p.enter settings false, left)
    | [] => none
  | cs => some (p.enter [] true, cs)

/-- Closes the innermost group. -/
def close? (p : Parser) : Option Parser :=
  match p.frames with
  | [] => none
  | frame :: outer =>
    some { p with
      level := frame.around.push (.group frame.settings frame.captures p.level.whole)
      frames := outer
      spaced := frame.spaced }

/-- Repeats the last part. There has to be one, and it must be neither empty nor mere options. What
follows the repetition may begin with the mark that makes it reluctant. -/
def repeat? (p : Parser) (min : Nat) (max : Option Nat) (cs : List Char) :
    Option (Parser × List Char) :=
  let (greedy, left) := match cs with
    | '?' :: rest => (false, rest)
    | cs => (true, cs)
  match p.level.parts with
  | [] => none
  | .empty :: _ => none
  | .flags _ :: _ => none
  | body :: before =>
    let parts := .repeated body min max greedy :: before
    some ({ p with level := { p.level with parts } }, left)

/-- A counted repetition, after its brace. -/
def counted? (p : Parser) (cs : List Char) : Option (Parser × List Char) := do
  let (min, left) ← count? p.spaced (tidy p.spaced cs)
  let (max, left) ← match left with
    | ',' :: rest =>
      match tidy p.spaced rest with
      | '\x7d' :: left => some (none, '\x7d' :: left)
      | rest => (count? p.spaced rest).map fun (max, left) => (some max, left)
    | left => some (some min, left)
  match left with
  | '\x7d' :: left =>
    if max.any (· < min) then none else p.repeat? min max (tidy p.spaced left)
  | _ => none

/-- One step, at a character that is not ignored. -/
def step? (p : Parser) : List Char → Option (Parser × List Char)
  | [] => none
  | '(' :: rest => p.group? rest
  | ')' :: rest => p.close?.map fun p => (p, rest)
  | '|' :: rest => some ({ p with level := p.level.next }, rest)
  | '[' :: rest => (bracketed? p.spaced rest).map fun (e, left) =>
      ({ p with level := p.level.push e }, left)
  | '?' :: rest => p.repeat? 0 (some 1) rest
  | '*' :: rest => p.repeat? 0 none rest
  | '+' :: rest => p.repeat? 1 none rest
  | '\x7b' :: rest => p.counted? rest
  | '\\' :: rest => (escape? p.spaced rest).map fun (e, left) =>
      ({ p with level := p.level.push e }, left)
  | '.' :: rest => some ({ p with level := p.level.push .dot }, rest)
  | '^' :: rest => some ({ p with level := p.level.push (.anchor .lineStart) }, rest)
  | '$' :: rest => some ({ p with level := p.level.push (.anchor .lineEnd) }, rest)
  | c :: rest => some ({ p with level := p.level.push (.literal c false) }, rest)

/-- Steps to the end of the pattern, at most as many as told. -/
def run? : Nat → Parser → List Char → Option Parser
  | steps, p, cs =>
    match tidy p.spaced cs, steps with
    | [], _ => some p
    | _, 0 => none
    | cs, steps + 1 => do
      let (p, left) ← p.step? cs
      run? steps p left

end Parser

/-- The pattern in a text, if it follows the grammar. -/
def parse? (text : String) : Option Expr := do
  let cs := text.toList
  let p ← Parser.run? cs.length {} cs
  if p.frames.isEmpty then
    let e := p.level.whole
    if e.depth ≤ maxDepth then some e else none
  else none

end TypeGraph.Pattern
