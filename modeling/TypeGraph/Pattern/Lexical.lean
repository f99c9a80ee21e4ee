import TypeGraph.Pattern.Syntax
import TypeGraph.Unicode.Classes

/-!
# Lexical parts of patterns

Escapes, numbers, names and options. Where spaces are ignored, blanks and comments may stand between
any two characters that belong together; `tidy` removes them.
-/

namespace TypeGraph.Pattern

/-! ## Ignored space -/

mutual

/-- Characters without the blanks and comments at their beginning. -/
def skipSpace : List Char → List Char
  | [] => []
  | c :: rest =>
    if Unicode.isWhiteSpace c then skipSpace rest
    else if c = '#' then skipComment rest
    else c :: rest

/-- Characters after a comment that ends with the line. -/
def skipComment : List Char → List Char
  | [] => []
  | c :: rest => if c = '\n' then skipSpace rest else skipComment rest

end

/-- Characters without ignored ones at their beginning. -/
def tidy (spaced : Bool) (cs : List Char) : List Char := if spaced then skipSpace cs else cs

theorem length_skip_le (cs : List Char) :
    (skipSpace cs).length ≤ cs.length ∧ (skipComment cs).length ≤ cs.length := by
  induction cs with
  | nil => simp [skipSpace, skipComment]
  | cons c rest ih =>
    simp only [skipSpace, skipComment, List.length_cons]
    refine ⟨?_, ?_⟩
    · split
      · omega
      · split
        · omega
        · simp
    · split <;> omega

theorem length_tidy_le (spaced : Bool) (cs : List Char) :
    (tidy spaced cs).length ≤ cs.length := by
  unfold tidy
  split
  · exact (length_skip_le cs).1
  · exact Nat.le_refl _

/-- The longest beginning of accepted characters, without ignored ones, and what follows it. -/
def run (spaced : Bool) (accept : Char → Bool) : List Char → List Char × List Char
  | [] => ([], [])
  | c :: rest =>
    if accept c then
      let (taken, left) := run spaced accept (tidy spaced rest)
      (c :: taken, left)
    else ([], c :: rest)
termination_by cs => cs.length
decreasing_by exact Nat.lt_succ_of_le (length_tidy_le spaced rest)

/-! ## Numbers -/

/-- The value of a hexadecimal digit. -/
def hexDigit? (c : Char) : Option Nat :=
  if '0' ≤ c ∧ c ≤ '9' then some (c.toNat - '0'.toNat)
  else if 'a' ≤ c ∧ c ≤ 'f' then some (c.toNat - 'a'.toNat + 10)
  else if 'A' ≤ c ∧ c ≤ 'F' then some (c.toNat - 'A'.toNat + 10)
  else none

/-- The character with a code point. -/
def charOf? (code : Nat) : Option Char :=
  if h : code.isValidChar then some (Char.ofNatAux code h) else none

/-- The character whose code point some hexadecimal digits name. -/
def hexChar? (digits : List Char) : Option Char := do
  let value ← digits.foldlM (fun n c => (hexDigit? c).map (n * 16 + ·)) 0
  charOf? value

/-- A given number of hexadecimal digits. -/
def fixedHex? (spaced : Bool) : Nat → List Char → Option (List Char × List Char)
  | 0, cs => some ([], cs)
  | _ + 1, [] => none
  | n + 1, c :: rest =>
    if (hexDigit? c).isSome then
      (fixedHex? spaced n (tidy spaced rest)).map fun (digits, left) => (c :: digits, left)
    else none

/-- A character by its code point: a fixed number of digits, or any number between braces. -/
def codeEscape? (spaced : Bool) (digits : Nat) (cs : List Char) : Option (Expr × List Char) := do
  match tidy spaced cs with
  | '\x7b' :: rest =>
    let (written, left) := run spaced (fun c => (hexDigit? c).isSome) (tidy spaced rest)
    match left with
    | '\x7d' :: left =>
      if written.isEmpty then none
      else return (.literal (← hexChar? written) false, tidy spaced left)
    | _ => none
  | cs =>
    let (written, left) ← fixedHex? spaced digits cs
    return (.literal (← hexChar? written) (digits = 2), left)

/-- Whether a character is a decimal digit. -/
def isDecimal (c : Char) : Bool := '0' ≤ c && c ≤ '9'

/-- The greatest count of a repetition. -/
def maxCount : Nat := Nat.pow 2 32 - 1

/-- A count: decimal digits between blanks. -/
def count? (spaced : Bool) (cs : List Char) : Option (Nat × List Char) :=
  let (digits, left) := run spaced isDecimal (cs.dropWhile Unicode.isWhiteSpace)
  let value := digits.foldl (fun n c => n * 10 + (c.toNat - '0'.toNat)) 0
  if digits.isEmpty || value > maxCount then none
  else some (value, left.dropWhile Unicode.isWhiteSpace)

/-! ## Escapes -/

/-- Characters with a meaning of their own. -/
def metaCharacters : List Char :=
  ['\\', '.', '+', '*', '?', '(', ')', '|', '[', ']', '\x7b', '\x7d', '^', '$', '#', '&', '-', '~']

/-- Whether a backslash before a character only makes it stand for itself. -/
def isPlainEscape (c : Char) : Bool :=
  metaCharacters.contains c ||
    (c.toNat < 0x80 && !c.isAlphanum && c ≠ '<' && c ≠ '>')

/-- The part of a text before a word, and the part after it. -/
def splitAt? (word : List Char) : List Char → Option (List Char × List Char)
  | [] => if word.isEmpty then some ([], []) else none
  | c :: rest =>
    if word.isPrefixOf (c :: rest) then some ([], (c :: rest).drop word.length)
    else (splitAt? word rest).map fun (before, after) => (c :: before, after)

/-- A property between braces, and whether its meaning is reversed. -/
def propertyOf (text : List Char) : PropertyName × Bool :=
  let valued (parts : List Char × List Char) : PropertyName :=
    .valued (String.ofList parts.1) (String.ofList parts.2)
  match splitAt? ['!', '='] text, splitAt? [':'] text, splitAt? ['='] text with
  | some parts, _, _ => (valued parts, true)
  | none, some parts, _ => (valued parts, false)
  | none, none, some parts => (valued parts, false)
  | none, none, none => (.named (String.ofList text), false)

/-- A class by property, after its letter. -/
def propertyEscape? (spaced negated : Bool) (cs : List Char) : Option (Expr × List Char) :=
  match tidy spaced cs with
  | [] => none
  | '\x7b' :: rest =>
    let (written, left) := run spaced (· ≠ '\x7d') (tidy spaced rest)
    match left with
    | _ :: left =>
      let (name, reversed) := propertyOf written
      some (.property name (negated != reversed), left)
    | [] => none
  | c :: rest =>
    if c = '\\' then none
    else some (.property (.named (String.singleton c)) negated, tidy spaced rest)

/-- The word boundaries with a name. -/
def namedBoundary? (name : List Char) : Option Anchor :=
  if name = "start".toList then some .wordStart
  else if name = "end".toList then some .wordEnd
  else if name = "start-half".toList then some .wordStartHalf
  else if name = "end-half".toList then some .wordEndHalf
  else none

/-- Whether a character can stand in the name of a word boundary. -/
def isBoundaryChar (c : Char) : Bool := c.isAlpha || c = '-'

/-- A word boundary, with a name between braces or without one. Braces that do not begin like a name
are left for a repetition. -/
def boundaryEscape? (spaced : Bool) (cs : List Char) : Option (Expr × List Char) :=
  match cs with
  | '\x7b' :: rest =>
    match tidy spaced rest with
    | [] => none
    | c :: inner =>
      if isBoundaryChar c then
        let (name, left) := run spaced isBoundaryChar (c :: inner)
        match left with
        | '\x7d' :: left => (namedBoundary? name).map fun kind => (.anchor kind, left)
        | _ => none
      else some (.anchor .wordBoundary, cs)
  | cs => some (.anchor .wordBoundary, cs)

/-- What follows a backslash. -/
def escape? (spaced : Bool) : List Char → Option (Expr × List Char)
  | [] => none
  | 'x' :: rest => codeEscape? spaced 2 rest
  | 'u' :: rest => codeEscape? spaced 4 rest
  | 'U' :: rest => codeEscape? spaced 8 rest
  | 'p' :: rest => propertyEscape? spaced false rest
  | 'P' :: rest => propertyEscape? spaced true rest
  | 'd' :: rest => some (.shorthand .digit false, rest)
  | 'D' :: rest => some (.shorthand .digit true, rest)
  | 's' :: rest => some (.shorthand .space false, rest)
  | 'S' :: rest => some (.shorthand .space true, rest)
  | 'w' :: rest => some (.shorthand .word false, rest)
  | 'W' :: rest => some (.shorthand .word true, rest)
  | 'a' :: rest => some (.literal '\x07' false, rest)
  | 'f' :: rest => some (.literal '\x0c' false, rest)
  | 't' :: rest => some (.literal '\t' false, rest)
  | 'n' :: rest => some (.literal '\n' false, rest)
  | 'r' :: rest => some (.literal '\r' false, rest)
  | 'v' :: rest => some (.literal '\x0b' false, rest)
  | 'A' :: rest => some (.anchor .textStart, rest)
  | 'z' :: rest => some (.anchor .textEnd, rest)
  | 'b' :: rest => boundaryEscape? spaced rest
  | 'B' :: rest => some (.anchor .notWordBoundary, rest)
  | '<' :: rest => some (.anchor .wordStart, rest)
  | '>' :: rest => some (.anchor .wordEnd, rest)
  | c :: rest => if isPlainEscape c then some (.literal c false, rest) else none

/-! ## Options and names -/

/-- The option with a letter. -/
def flag? : Char → Option Flag
  | 'i' => some .ignoreCase
  | 'm' => some .multiLine
  | 's' => some .dotMatchesNewline
  | 'U' => some .swapGreed
  | 'u' => some .unicode
  | 'R' => some .carriageReturn
  | 'x' => some .ignoreSpace
  | _ => none

/-- Options up to a colon or closing parenthesis, which is kept: each at most once, with at most one
minus sign before those that are switched off, and none after it missing. -/
def settings? (done : Settings) (minus dangling : Bool) :
    List Char → Option (Settings × List Char)
  | [] => none
  | c :: rest =>
    if c = ':' ∨ c = ')' then if dangling then none else some (done, c :: rest)
    else if c = '-' then if minus then none else settings? done true true rest
    else do
      let flag ← flag? c
      if (Settings.value? done flag).isSome then none
      else settings? (done ++ [(flag, !minus)]) minus false rest

/-- Whether a character can stand in the name of a group. -/
def isNameChar (first : Bool) (c : Char) : Bool :=
  c = '_' ||
    (if first then Unicode.isAlphabetic c
     else c = '.' || c = '[' || c = ']' || Unicode.isAlphanumeric c)

/-- The name of a group, up to the closing angle bracket. -/
def groupName? (cs : List Char) : Option (String × List Char) :=
  let name := cs.takeWhile (· ≠ '>')
  match name, cs.dropWhile (· ≠ '>') with
  | first :: others, _ :: rest =>
    if isNameChar true first && others.all (isNameChar false) then
      some (String.ofList name, rest)
    else none
  | _, _ => none

end TypeGraph.Pattern
