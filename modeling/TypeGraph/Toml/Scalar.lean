import TypeGraph.Json.Basic
import TypeGraph.Text.Segments
import TypeGraph.Toml.Quoted

/-!
# Bare scalars of Toml

Numbers, booleans, dates and times are runs of characters without quotes. An integer has at most 128
bits, signed or unsigned. Dates and times are records with one field of their own, so that nothing else
takes them for its value.
-/

namespace TypeGraph.Toml

/-! ## Digits -/

/-- Digits between which single underscores may stand. -/
def digits? (isDigit : Char → Bool) (written : List Char) : Option (List Char) :=
  let parts := Text.split '_' written
  if parts.all fun part => !part.isEmpty && part.all isDigit then some parts.flatten else none

/-- The value of digits in a base. -/
def valueIn (base : Nat) (digits : List Char) : Nat :=
  digits.foldl (fun n c => n * base + (Json.hexDigit? c).getD 0) 0

/-- Decimal digits without a leading zero. -/
def decimal? (written : List Char) : Option (List Char) := do
  let digits ← digits? Json.isDigit written
  if digits.length > 1 ∧ digits.head? = some '0' then none else some digits

/-- A sign in front, if there is one: whether it is negative, and the rest. -/
def sign : List Char → Bool × List Char
  | '-' :: rest => (true, rest)
  | '+' :: rest => (false, rest)
  | rest => (false, rest)

/-! ## Numbers -/

/-- An integer as a value. -/
def intValue? (n : Int) : Option Json :=
  if -(Nat.pow 2 127 : Int) ≤ n ∧ n < Nat.pow 2 128 then some (.int n) else none

/-- An integer in the base that its first characters name. -/
def basedInteger? (written : List Char) : Option Json :=
  let read (base : Nat) (isDigit : Char → Bool) (rest : List Char) : Option Json := do
    let digits ← digits? isDigit rest
    intValue? (valueIn base digits)
  match written with
  | '0' :: 'x' :: rest => read 16 (fun c => (Json.hexDigit? c).isSome) rest
  | '0' :: 'o' :: rest => read 8 (fun c => '0' ≤ c && c ≤ '7') rest
  | '0' :: 'b' :: rest => read 2 (fun c => c = '0' || c = '1') rest
  | _ => none

/-- A decimal integer. -/
def integer? (written : List Char) : Option Json := do
  let (negative, unsigned) := sign written
  let digits ← decimal? unsigned
  let n : Int := valueIn 10 digits
  intValue? (if negative then -n else n)

/-- The double with some digits and a power of ten, if it is not too great. -/
def floatOf? (negative : Bool) (digits : List Char) (exponent : Int) : Option Json :=
  let n := valueIn 10 digits
  let x :=
    if n = 0 ∨ exponent < -(digits.length : Int) - 400 then 0.0
    else if 400 < exponent then 1.0 / 0.0
    else Float.ofScientific n (exponent < 0) exponent.natAbs
  if x.isInf then none else some (.float (if negative then -x else x))

/-- The exponent after its mark: a sign and digits. -/
def exponent? (written : List Char) : Option Int := do
  let (negative, unsigned) := sign written
  let digits ← digits? Json.isDigit unsigned
  let n : Int := valueIn 10 digits
  return if negative then -n else n

/-- A number with a fraction or an exponent. -/
def float? (written : List Char) : Option Json := do
  let (negative, unsigned) := sign written
  if unsigned = "inf".toList then
    return .float (if negative then -(1.0 / 0.0) else 1.0 / 0.0)
  if unsigned = "nan".toList then return .float (0.0 / 0.0)
  let isMark (c : Char) : Bool := c = 'e' || c = 'E'
  let mantissa := unsigned.takeWhile (!isMark ·)
  let scaled := unsigned.dropWhile (!isMark ·)
  let exponent ← if scaled.isEmpty then some 0 else exponent? scaled.tail
  let whole ← decimal? (mantissa.takeWhile (· ≠ '.'))
  let fraction ← match mantissa.dropWhile (· ≠ '.') with
    | [] => if scaled.isEmpty then none else some []
    | _ :: fraction => digits? Json.isDigit fraction
  floatOf? negative (whole ++ fraction) (exponent - fraction.length)

/-! ## Dates and times -/

/-- Two digits as a number within bounds. -/
def twoDigits? (low high : Nat) (a b : Char) : Option Nat :=
  let n := valueIn 10 [a, b]
  if Json.isDigit a && Json.isDigit b && low ≤ n && n ≤ high then some n else none

/-- The number of days of a month. -/
def daysOf (year month : Nat) : Nat :=
  if month = 2 then
    if year % 4 = 0 ∧ (year % 100 ≠ 0 ∨ year % 400 = 0) then 29 else 28
  else if [4, 6, 9, 11].contains month then 30
  else 31

/-- The rest after a date. -/
def afterDate? : List Char → Option (List Char)
  | y₁ :: y₂ :: y₃ :: y₄ :: '-' :: m₁ :: m₂ :: '-' :: d₁ :: d₂ :: rest => do
    let month ← twoDigits? 1 12 m₁ m₂
    let _ ← twoDigits? 1 (daysOf (valueIn 10 [y₁, y₂, y₃, y₄]) month) d₁ d₂
    if [y₁, y₂, y₃, y₄].all Json.isDigit then some rest else none
  | _ => none

/-- The rest after the fraction of a second, if there is one. -/
def afterFraction? : List Char → Option (List Char)
  | '.' :: rest =>
    if (rest.takeWhile Json.isDigit).isEmpty then none else some (rest.dropWhile Json.isDigit)
  | rest => some rest

/-- The rest after a time. Seconds may be left out. -/
def afterTime? : List Char → Option (List Char)
  | h₁ :: h₂ :: ':' :: m₁ :: m₂ :: rest => do
    let _ ← twoDigits? 0 23 h₁ h₂
    let _ ← twoDigits? 0 59 m₁ m₂
    match rest with
    | ':' :: s₁ :: s₂ :: rest =>
      let _ ← twoDigits? 0 60 s₁ s₂
      afterFraction? rest
    | rest => some rest
  | _ => none

/-- Whether some characters are an offset from universal time, or nothing. -/
def isOffset : List Char → Bool
  | [] => true
  | [c] => c = 'Z' || c = 'z'
  | [s, h₁, h₂, ':', m₁, m₂] =>
    (s = '+' || s = '-') && (twoDigits? 0 23 h₁ h₂).isSome && (twoDigits? 0 59 m₁ m₂).isSome
  | _ => false

/-- Whether some characters are a date, a time, or both. -/
def isDateTime (written : List Char) : Bool :=
  match afterDate? written with
  | some [] => true
  | some (c :: rest) =>
    (c = 'T' || c = 't' || c = ' ') && (afterTime? rest).any isOffset
  | none => afterTime? written == some []

/-- The only field of a date or time. -/
def dateTimeField : String := "date-time"

/-! ## Scalars -/

/-- The value of a bare scalar. -/
def scalarValue? (written : List Char) : Option Json :=
  if written = "true".toList then some (.bool true)
  else if written = "false".toList then some (.bool false)
  else if isDateTime written then
    some (.object [(dateTimeField, .text (String.ofList written))])
  else basedInteger? written <|> integer? written <|> float? written

/-- Whether a character may stand in a bare scalar. -/
def isScalarChar (c : Char) : Bool := c.isAlphanum || ['_', '-', '+', '.', ':'].contains c

/-- A bare scalar. A date and the time after it may be divided by a space. -/
def scalar? (read : List Char) : Option (Json × List Char) :=
  let first := read.takeWhile isScalarChar
  let rest := read.dropWhile isScalarChar
  let (written, rest) := match afterDate? first, rest with
    | some [], ' ' :: d :: more =>
      if Json.isDigit d then
        (first ++ ' ' :: (d :: more).takeWhile isScalarChar, (d :: more).dropWhile isScalarChar)
      else (first, rest)
    | _, _ => (first, rest)
  (scalarValue? written).map fun v => (v, rest)

end TypeGraph.Toml
