import TypeGraph.Json.Token

/-!
# Quoted texts of Toml

The four forms of quoted texts: with escapes or literal, each on one line or over several. Every
reader starts after the opening quotes and returns the text and what follows the closing quotes.
-/

namespace TypeGraph.Toml

/-- A reader: a result and the rest of the characters, or nothing. -/
abbrev Reads (α : Type) := List Char → Option (α × List Char)

/-- Whether a character may stand in a comment or in a text on one line. -/
def isVisible (c : Char) : Bool := c = '\t' || 0x20 ≤ c.toNat && c.toNat ≠ 0x7f

/-- Whether a character is a blank. -/
def isBlank (c : Char) : Bool := c = ' ' || c = '\t'

/-- The number that some hexadecimal digits stand for. -/
def hexValue? (digits : List Char) : Option Nat :=
  digits.foldlM (fun n c => (Json.hexDigit? c).map fun d => n * 16 + d) 0

/-- The character with a code point given in hexadecimal digits. -/
def codePoint? (digits : List Char) : Option Char := do
  let n ← hexValue? digits
  if n < 0xd800 ∨ 0xdfff < n ∧ n < 0x110000 then some (Char.ofNat n) else none

/-- The character that an escape names. -/
def escaped? (c : Char) : Option Char :=
  match c with
  | 'b' => some '\x08'
  | 't' => some '\t'
  | 'n' => some '\n'
  | 'f' => some '\x0c'
  | 'r' => some '\r'
  | 'e' => some '\x1b'
  | '"' => some '"'
  | '\\' => some '\\'
  | _ => none

/-- Puts a character in front of what was read after it. -/
def before (c : Option Char) (text : Option (List Char × List Char)) :
    Option (List Char × List Char) := do
  let (read, rest) ← text
  return ((← c) :: read, rest)

/-- A text on one line with escapes. -/
def basic? : Reads (List Char)
  | [] => none
  | '"' :: rest => some ([], rest)
  | '\\' :: 'x' :: a :: b :: rest => before (codePoint? [a, b]) (basic? rest)
  | '\\' :: 'u' :: a :: b :: c :: d :: rest => before (codePoint? [a, b, c, d]) (basic? rest)
  | '\\' :: 'U' :: a :: b :: c :: d :: e :: f :: g :: h :: rest =>
    before (codePoint? [a, b, c, d, e, f, g, h]) (basic? rest)
  | '\\' :: c :: rest => before (escaped? c) (basic? rest)
  | c :: rest => if isVisible c then before (some c) (basic? rest) else none

/-- Whether nothing but blanks stands before the end of the line. -/
def endsLine : List Char → Bool
  | '\n' :: _ => true
  | '\r' :: '\n' :: _ => true
  | c :: rest => isBlank c && endsLine rest
  | [] => false

/-- A text over several lines with escapes. A backslash at the end of a line leaves out everything up
to the next character that is neither blank nor the end of a line: there is a `gap`. Up to two quotes
may stand before the closing ones. -/
def multiLineBasic? (gap : Bool) : Reads (List Char)
  | [] => none
  | '"' :: '"' :: '"' :: '"' :: '"' :: rest => some (['"', '"'], rest)
  | '"' :: '"' :: '"' :: '"' :: rest => some (['"'], rest)
  | '"' :: '"' :: '"' :: rest => some ([], rest)
  | '\\' :: 'x' :: a :: b :: rest => before (codePoint? [a, b]) (multiLineBasic? false rest)
  | '\\' :: 'u' :: a :: b :: c :: d :: rest =>
    before (codePoint? [a, b, c, d]) (multiLineBasic? false rest)
  | '\\' :: 'U' :: a :: b :: c :: d :: e :: f :: g :: h :: rest =>
    before (codePoint? [a, b, c, d, e, f, g, h]) (multiLineBasic? false rest)
  | '\\' :: c :: rest =>
    if endsLine (c :: rest) then multiLineBasic? true rest
    else before (escaped? c) (multiLineBasic? false rest)
  | '\r' :: '\n' :: rest =>
    if gap then multiLineBasic? true rest
    else before (some '\r') (before (some '\n') (multiLineBasic? false rest))
  | c :: rest =>
    if c = '\n' || isVisible c then
      if gap && (c = '\n' || isBlank c) then multiLineBasic? true rest
      else before (some c) (multiLineBasic? false rest)
    else none

/-- A text on one line without escapes. -/
def literal? : Reads (List Char)
  | [] => none
  | '\'' :: rest => some ([], rest)
  | c :: rest => if isVisible c then before (some c) (literal? rest) else none

/-- A text over several lines without escapes. -/
def multiLineLiteral? : Reads (List Char)
  | [] => none
  | '\'' :: '\'' :: '\'' :: '\'' :: '\'' :: rest => some (['\'', '\''], rest)
  | '\'' :: '\'' :: '\'' :: '\'' :: rest => some (['\''], rest)
  | '\'' :: '\'' :: '\'' :: rest => some ([], rest)
  | '\r' :: '\n' :: rest => before (some '\r') (before (some '\n') (multiLineLiteral? rest))
  | c :: rest =>
    if c = '\n' || isVisible c then before (some c) (multiLineLiteral? rest) else none

/-- The rest after the end of a line that follows the opening quotes at once. -/
def dropFirstLineEnd : List Char → List Char
  | '\n' :: rest => rest
  | '\r' :: '\n' :: rest => rest
  | rest => rest

/-- A quoted text in any form, from its opening quotes on. -/
def quoted? (read : List Char) : Option (String × List Char) :=
  let text := match read with
    | '"' :: '"' :: '"' :: rest => multiLineBasic? false (dropFirstLineEnd rest)
    | '\'' :: '\'' :: '\'' :: rest => multiLineLiteral? (dropFirstLineEnd rest)
    | '"' :: rest => basic? rest
    | '\'' :: rest => literal? rest
    | _ => none
  text.map fun (cs, rest) => (String.ofList cs, rest)

/-- A quoted text on one line, from its opening quote on. -/
def quotedOnLine? (read : List Char) : Option (String × List Char) :=
  let text := match read with
    | '"' :: '"' :: '"' :: _ => none
    | '\'' :: '\'' :: '\'' :: _ => none
    | '"' :: rest => basic? rest
    | '\'' :: rest => literal? rest
    | _ => none
  text.map fun (cs, rest) => (String.ofList cs, rest)

end TypeGraph.Toml
