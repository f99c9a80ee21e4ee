import TypeGraph.Json.Number

/-!
# Tokens of a Json text

A text is cut into tokens by one pass over its characters. What a token means is left to the reader:
an escaped text keeps its code units and a number its digits, so that a part of a document that nobody
asks for is only checked for its form.
-/

namespace TypeGraph.Json

/-- A piece of a written text: a character that stands for itself or was escaped by name, or a
16-bit code unit escaped by number. -/
inductive Piece where
  | char (c : Char)
  | unit (code : Nat)
  deriving DecidableEq

/-- A token. -/
inductive Token where
  | openList
  | closeList
  | openObject
  | closeObject
  | comma
  | colon
  | null
  | bool (value : Bool)
  | number (literal : Number.Literal)
  | text (pieces : List Piece)

/-! ## Meaning of pieces -/

/-- The text of some pieces. Two code units that form a surrogate pair are one character; a surrogate
outside such a pair has no meaning. -/
def pieceText? : List Piece → Option (List Char)
  | [] => some []
  | .char c :: rest => (pieceText? rest).map (c :: ·)
  | .unit high :: rest =>
    if 0xd800 ≤ high ∧ high < 0xdc00 then
      match rest with
      | .unit low :: rest =>
        if 0xdc00 ≤ low ∧ low < 0xe000 then
          (pieceText? rest).map
            (Char.ofNat (0x10000 + (high - 0xd800) * 0x400 + (low - 0xdc00)) :: ·)
        else none
      | _ => none
    else if 0xdc00 ≤ high ∧ high < 0xe000 then none
    else (pieceText? rest).map (Char.ofNat high :: ·)

/-! ## Written numbers -/

/-- Whether a character is a decimal digit. -/
def isDigit (c : Char) : Bool := '0' ≤ c && c ≤ '9'

/-- The exponent of a number: a sign and digits. -/
def exponent? (written : List Char) : Option (Bool × List Char) :=
  let (negative, digits) := match written with
    | '-' :: rest => (true, rest)
    | '+' :: rest => (false, rest)
    | rest => (false, rest)
  if digits.isEmpty || !digits.all isDigit then none else some (negative, digits)

/-- A number: an optional minus sign, digits without a leading zero, and optionally a point with
digits and an exponent. -/
def literal? (written : List Char) : Option Number.Literal :=
  let (negative, unsigned) := match written with
    | '-' :: rest => (true, rest)
    | rest => (false, rest)
  let whole := unsigned.takeWhile isDigit
  let rest := unsigned.dropWhile isDigit
  let canonical := whole.length = 1 ∨ whole.length > 1 ∧ whole.head? ≠ some '0'
  if ¬ canonical then none
  else
    let (fraction, rest) := match rest with
      | '.' :: rest => (some (rest.takeWhile isDigit), rest.dropWhile isDigit)
      | rest => (none, rest)
    if fraction = some [] then none
    else match rest with
      | [] => some { negative, whole, fraction, exponent := none }
      | e :: rest =>
        if e = 'e' ∨ e = 'E' then
          (exponent? rest).map fun exponent =>
            { negative, whole, fraction, exponent := some exponent }
        else none

/-- The words of the format. -/
def word? (written : List Char) : Option Token :=
  if written = "null".toList then some .null
  else if written = "true".toList then some (.bool true)
  else if written = "false".toList then some (.bool false)
  else none

/-! ## The pass over the characters -/

/-- What the characters read last belong to. Collected characters are kept last one first. -/
inductive Mode where
  | between
  | word (written : List Char)
  | number (written : List Char)
  | text (pieces : List Piece)
  | escape (pieces : List Piece)
  | code (pieces : List Piece) (digits : Nat) (value : Nat)

/-- The value of a hexadecimal digit in either case. -/
def hexDigit? (c : Char) : Option Nat :=
  if '0' ≤ c ∧ c ≤ '9' then some (c.toNat - '0'.toNat)
  else if 'a' ≤ c ∧ c ≤ 'f' then some (c.toNat - 'a'.toNat + 10)
  else if 'A' ≤ c ∧ c ≤ 'F' then some (c.toNat - 'A'.toNat + 10)
  else none

/-- The character named by an escape. -/
def escaped? (c : Char) : Option Char :=
  match c with
  | '"' => some '"'
  | '\\' => some '\\'
  | '/' => some '/'
  | 'b' => some '\x08'
  | 'f' => some '\x0c'
  | 'n' => some '\n'
  | 'r' => some '\r'
  | 't' => some '\t'
  | _ => none

/-- A character between tokens: the tokens it completes, and what it begins. -/
def begin? (c : Char) : Option (List Token × Mode) :=
  match c with
  | ' ' | '\n' | '\t' | '\r' => some ([], .between)
  | '[' => some ([.openList], .between)
  | ']' => some ([.closeList], .between)
  | '\x7b' => some ([.openObject], .between)
  | '\x7d' => some ([.closeObject], .between)
  | ',' => some ([.comma], .between)
  | ':' => some ([.colon], .between)
  | '"' => some ([], .text [])
  | c =>
    if isDigit c || c = '-' then some ([], .number [c])
    else if c.isLower then some ([], .word [c])
    else none

/-- The token that a mode completes when it ends, if the mode may end. -/
def finish? : Mode → Option (List Token)
  | .between => some []
  | .word written => (word? written.reverse).map ([·])
  | .number written => (literal? written.reverse).map fun l => [.number l]
  | .text _ | .escape _ | .code _ _ _ => none

/-- Whether a character continues a number. -/
def continuesNumber (c : Char) : Bool := isDigit c || ['+', '-', '.', 'e', 'E'].contains c

/-- Ends a mode and begins again with a character. -/
def restart? (mode : Mode) (c : Char) : Option (List Token × Mode) := do
  let before ← finish? mode
  let (after, next) ← begin? c
  return (before ++ after, next)

/-- One character: the tokens it completes and the mode after it. -/
def step? (mode : Mode) (c : Char) : Option (List Token × Mode) :=
  match mode with
  | .between => begin? c
  | .word written => if c.isLower then some ([], .word (c :: written)) else restart? mode c
  | .number written =>
    if continuesNumber c then some ([], .number (c :: written)) else restart? mode c
  | .text pieces =>
    if c = '"' then some ([.text pieces.reverse], .between)
    else if c = '\\' then some ([], .escape pieces)
    else if c.toNat < 0x20 then none
    else some ([], .text (.char c :: pieces))
  | .escape pieces =>
    if c = 'u' then some ([], .code pieces 0 0)
    else (escaped? c).map fun e => ([], .text (.char e :: pieces))
  | .code pieces digits value =>
    (hexDigit? c).map fun d =>
      if digits = 3 then ([], .text (.unit (value * 16 + d) :: pieces))
      else ([], .code pieces (digits + 1) (value * 16 + d))

/-- The tokens of a text read in a mode. -/
def scan? (mode : Mode) : List Char → Option (List Token)
  | [] => finish? mode
  | c :: rest => do
    let (tokens, next) ← step? mode c
    return tokens ++ (← scan? next rest)

/-- The tokens of a text. -/
def tokens? (text : String) : Option (List Token) := scan? .between text.toList

end TypeGraph.Json
