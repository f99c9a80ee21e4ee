import TypeGraph.Decimal.Shortest

/-!
# Written numbers

How numbers are read from digits and written back. A number without fraction and exponent that fits
64 bits, signed or unsigned, is an integer; every other number is a double. A double is its decimal
digits as a 64-bit integer, scaled by a power of ten in one rounded step.
-/

namespace TypeGraph.Json.Number

/-! ## Writing -/

/-- How doubles are written: positionally while the exponent lies in a range, otherwise with a signed
exponent. -/
structure FloatFormat where
  leastPositional : Int
  greatestPositional : Int

/-- Doubles are positional from `0.00001` up to `1e15`. -/
def floatFormat : FloatFormat := ⟨-5, 15⟩

/-- Digits as characters. -/
def digitChars (digits : List Nat) : List Char := digits.map Nat.digitChar

/-- The positional form of a decimal. -/
def positional (s : Decimal.Scientific) : List Char :=
  let digits := digitChars s.digits
  if s.exponent < 0 then
    "0.".toList ++ List.replicate ((-s.exponent).toNat - 1) '0' ++ digits
  else
    let whole := s.exponent.toNat + 1
    let before := digits.take whole ++ List.replicate (whole - digits.length) '0'
    let after := digits.drop whole
    before ++ ['.'] ++ (if after.isEmpty then ['0'] else after)

/-- The form of a decimal with an exponent, which has a sign and no leading zeros. -/
def exponential (s : Decimal.Scientific) : List Char :=
  let mantissa := match digitChars s.digits with
    | [] => ['0']
    | [d] => [d]
    | d :: rest => d :: '.' :: rest
  mantissa ++ ['e', if s.exponent < 0 then '-' else '+'] ++ Nat.toDigits 10 s.exponent.natAbs

/-- A finite double as text. -/
def floatText (x : Float) : String :=
  let negative := x.toBits ≥ 0x8000000000000000
  let magnitude := Float.ofBits (x.toBits &&& 0x7fffffffffffffff)
  let body :=
    if magnitude.toBits = 0 then "0.0".toList
    else
      let s := Decimal.shortest magnitude
      if floatFormat.leastPositional ≤ s.exponent ∧ s.exponent ≤ floatFormat.greatestPositional
      then positional s
      else exponential s
  String.ofList (if negative then '-' :: body else body)

/-! ## Reading -/

/-- The value of decimal digits. -/
def digitsValue (digits : List Char) : Nat :=
  digits.foldl (fun n c => n * 10 + (c.toNat - '0'.toNat)) 0

/-- The digits of a written number: sign, digits before and after the point, and the exponent. -/
structure Literal where
  negative : Bool
  whole : List Char
  fraction : Option (List Char)
  exponent : Option (Bool × List Char)

/-- The greatest unsigned 64-bit integer. -/
def maxUnsigned : Nat := Nat.pow 2 64 - 1

/-- Adds digits to a significand while it fits 64 bits: the significand, and the digits left over. -/
def gather (significand : Nat) : List Char → Nat × List Char
  | [] => (significand, [])
  | c :: rest =>
    let next := significand * 10 + (c.toNat - '0'.toNat)
    if next ≤ maxUnsigned then gather next rest else (significand, c :: rest)

/-- Scales a double by a power of ten: one rounded step for exponents up to 308, for smaller numbers
more. There is no result when the number is too great for a double. -/
def scale (x : Float) (exponent : Int) : Option Float :=
  go 80 x exponent
where
  /-- The steps; their number is bounded as two of them already turn any double into zero. -/
  go : Nat → Float → Int → Option Float
    | 0, x, _ => some x
    | fuel + 1, x, e =>
      if e.natAbs ≤ 308 then
        let power := Float.ofScientific 1 false e.natAbs
        if 0 ≤ e then
          let y := x * power
          if y.isInf then none else some y
        else some (x / power)
      else if x == 0 then some x
      else if 0 ≤ e then none
      else go fuel (x / 1e308) (e + 308)

/-- The bound of written exponents; greater ones count as this one. -/
def maxExponent : Nat := Nat.pow 2 31 - 1

/-- The double of a literal, from its significant digits. -/
def Literal.float? (l : Literal) : Option Float :=
  let (whole, wholeLeft) := gather 0 l.whole
  let fraction := l.fraction.getD []
  let (significand, fractionLeft) := gather whole fraction
  let shift : Int := (wholeLeft.length + fractionLeft.length : Nat) - (fraction.length : Int)
  let written : Int := match l.exponent with
    | none => 0
    | some (negative, digits) =>
      let n : Int := min (digitsValue digits) maxExponent
      if negative then -n else n
  let x := (UInt64.ofNat significand).toFloat
  (scale x (shift + written)).map fun y => if l.negative then -y else y

/-- The integer of a literal, if it is one that fits 64 bits. Minus zero is no integer. -/
def Literal.int? (l : Literal) : Option Int :=
  match l.fraction, l.exponent with
  | none, none =>
    let n := digitsValue l.whole
    if l.negative then
      if n ≠ 0 ∧ n ≤ Nat.pow 2 63 then some (-n) else none
    else if n ≤ maxUnsigned then some n else none
  | _, _ => none

end TypeGraph.Json.Number
