/-!
# Shortest decimals

The decimal of fewest digits that reads back as a given double, and among those the nearest. A finite
double is an integer times a power of two; the reals that round to it form an interval, and the
search walks the decimal grids of one, two, three … digits until one of them has a point inside.
-/

namespace TypeGraph.Decimal

/-- A decimal number: `digits`, with the point behind the first of them, times ten to `exponent`. -/
structure Scientific where
  digits : List Nat
  exponent : Int
  deriving Repr, DecidableEq

/-- A positive double as a fraction, with the interval of reals that round to it. All three have the
same denominator; the ends belong to the interval when `closed`. -/
structure Interval where
  low : Nat
  value : Nat
  high : Nat
  denominator : Nat
  closed : Bool

/-- The interval of the double with significand `m` and exponent `q`, that is `m * 2 ^ q`; the gap
below is half as wide as the one above when `atPower`. -/
def Interval.ofParts (m : Nat) (q : Int) (atPower : Bool) : Interval :=
  let scale := q - 2
  let up : Nat := Nat.pow 2 scale.toNat
  let below : Nat := if atPower then 1 else 2
  { low := (4 * m - below) * up
    value := 4 * m * up
    high := (4 * m + 2) * up
    denominator := Nat.pow 2 (-scale).toNat
    closed := m % 2 == 0 }

/-- The interval of a positive finite double, from its bits. -/
def Interval.ofBits (bits : UInt64) : Interval :=
  let fraction : Nat := bits.toNat % Nat.pow 2 52
  let exponent : Nat := bits.toNat / Nat.pow 2 52 % Nat.pow 2 11
  if exponent = 0 then .ofParts fraction (-1074) false
  else .ofParts (Nat.pow 2 52 + fraction) ((exponent : Int) - 1075) (fraction = 0 && exponent > 1)

namespace Interval

/-- Whether `n * 10 ^ k` lies in the interval. -/
def covers (i : Interval) (n : Nat) (k : Int) : Bool :=
  let point := n * Nat.pow 10 k.toNat * i.denominator
  let unit := Nat.pow 10 (-k).toNat
  if i.closed then i.low * unit ≤ point && point ≤ i.high * unit
  else i.low * unit < point && point < i.high * unit

/-- The number of grid steps `10 ^ k` that fit below the value. -/
def stepsBelow (i : Interval) (k : Int) : Nat :=
  i.value * Nat.pow 10 (-k).toNat / (i.denominator * Nat.pow 10 k.toNat)

/-- Whether the value is nearer to the lower of two neighbouring grid points; on a tie, whether the
lower one is even. -/
def nearerBelow (i : Interval) (n : Nat) (k : Int) : Bool :=
  let twice := 2 * i.value * Nat.pow 10 (-k).toNat
  let middle := (2 * n + 1) * Nat.pow 10 k.toNat * i.denominator
  if twice = middle then n % 2 = 0 else twice < middle

/-- A grid point in the interval next to the value, if there is one. -/
def gridPoint? (i : Interval) (k : Int) : Option Nat :=
  let n := i.stepsBelow k
  match i.covers n k, i.covers (n + 1) k with
  | true, true => some (if i.nearerBelow n k then n else n + 1)
  | true, false => some n
  | false, true => some (n + 1)
  | false, false => none

/-- The greatest exponent `k ≤ start` such that ten to it does not exceed the value. -/
def leadingExponent (i : Interval) : Nat → Int → Int
  | 0, k => k
  | fuel + 1, k => if i.stepsBelow k > 0 then k else leadingExponent i fuel (k - 1)

/-- The first grid with a point in the interval, from coarse to fine: the point and its step. -/
def search (i : Interval) : Nat → Int → Nat × Int
  | 0, k => (i.stepsBelow k, k)
  | fuel + 1, k =>
    match i.gridPoint? k with
    | some n => if n = 0 then search i fuel (k - 1) else (n, k)
    | none => search i fuel (k - 1)

end Interval

/-- The digits of a number without the zeros at its end, and how many of those there were. -/
def trimZeros : Nat → Nat → Nat × Nat
  | 0, n => (n, 0)
  | fuel + 1, n =>
    if n % 10 = 0 ∧ n ≠ 0 then
      let (m, zeros) := trimZeros fuel (n / 10)
      (m, zeros + 1)
    else (n, 0)

/-- The shortest decimal of a positive finite double. -/
def shortest (x : Float) : Scientific :=
  let i := Interval.ofBits x.toBits
  let lead := i.leadingExponent 650 309
  let (n, k) := i.search 18 lead
  let (m, zeros) := trimZeros 20 n
  let digits := (Nat.toDigits 10 m).map fun c => c.toNat - '0'.toNat
  { digits, exponent := k + ((zeros + digits.length : Nat) : Int) - 1 }

end TypeGraph.Decimal
