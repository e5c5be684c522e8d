import ProverLink.Number.Binary64

/-!
# Shortest decimals

The decimal with the fewest digits that reads back as a given binary64 number, and of those the one
nearest to it. `Layout` says how its digits are written; two layouts are in use.
-/

namespace ProverLink

/-- The reals that round to a number, as fractions over one denominator. -/
structure Interval where
  low : Nat
  value : Nat
  high : Nat
  den : Nat
  closed : Bool

namespace Interval

/-- The interval of a positive finite number. Below a power of two the gap is half as wide. -/
def ofFinite (m : Nat) (e : Int) : Interval :=
  let below := if m = Nat.pow 2 52 && Binary64.minExponent < e then 1 else 2
  let closed := m % 2 = 0
  if 0 ≤ e then
    let s := Nat.pow 2 e.toNat
    { low := (4 * m - below) * s, value := 4 * m * s, high := (4 * m + 2) * s, den := 4, closed }
  else
    let den := 4 * Nat.pow 2 (-e).toNat
    { low := 4 * m - below, value := 4 * m, high := 4 * m + 2, den, closed }

/-- Whether a fraction lies in the interval. -/
def contains (i : Interval) (num den : Nat) : Bool :=
  if i.closed then i.low * den ≤ num * i.den && num * i.den ≤ i.high * den
  else i.low * den < num * i.den && num * i.den < i.high * den

end Interval

namespace Shortest

/-- The least `j` from `start` on, at most `fuel` further, with `den ≤ num * Nat.pow 10 j`. -/
def leadingZeros (num den : Nat) : Nat → Nat → Nat
  | 0, j => j
  | fuel + 1, j => if den ≤ num * Nat.pow 10 j then j else leadingZeros num den fuel (j + 1)

/-- The exponent of the first significant decimal digit of a positive quotient. -/
def magnitude (num den : Nat) : Int :=
  if den ≤ num then (Nat.toDigits 10 (num / den)).length - 1
  else -(leadingZeros num den 400 1 : Int)

/-- A power of ten as a fraction. -/
def power (exponent : Int) : Nat × Nat :=
  if 0 ≤ exponent then (Nat.pow 10 exponent.toNat, 1) else (1, Nat.pow 10 (-exponent).toNat)

/-- The multiple of `10 ^ exponent` that is nearest to the value, if one lies in the interval. Of
two equally near ones the even one is taken. -/
def onGrid? (i : Interval) (exponent : Int) : Option Nat :=
  let (p, q) := power exponent
  let num := i.value * q
  let den := i.den * p
  let lo := num / den
  let hits := [lo, lo + 1].filter fun c => i.contains (c * p) q
  match hits with
  | [] => none
  | [c] => some c
  | _ => some (Binary64.roundDiv num den)

/-- Searches the grids of `count`, `count + 1`, … digits. -/
def search (i : Interval) (top : Int) : Nat → Nat → Nat × Int
  | 0, count => (i.value * (power (count - 1 - top)).1 / i.den, top - (count - 1))
  | fuel + 1, count =>
    let exponent := top - (count - 1)
    match onGrid? i exponent with
    | some c => (c, exponent)
    | none => search i top fuel (count + 1)

/-- Drops zeros at the end of a coefficient. -/
def normalize : Nat → Nat × Int → Nat × Int
  | 0, r => r
  | fuel + 1, (c, e) => if c % 10 = 0 then normalize fuel (c / 10, e + 1) else (c, e)

/-- The shortest decimal, coefficient and exponent, of a positive finite number. -/
def decimal (m : Nat) (e : Int) : Nat × Int :=
  let i := Interval.ofFinite m e
  normalize 17 (search i (magnitude i.value i.den) 17 1)

end Shortest

/-- How a decimal is written. -/
structure Layout where
  /-- The least exponent of the first digit that is written without an exponent. -/
  least : Int
  /-- The greatest such exponent. -/
  greatest : Int
  /-- How many digits an exponent has at least. -/
  exponentDigits : Nat
  nan : String
  infinity : String
  minusInfinity : String

namespace Layout

/-- The digits of an exponent, padded with zeros. -/
def exponentChars (l : Layout) (n : Nat) : List Char :=
  let ds := Decimal.natChars n
  List.replicate (l.exponentDigits - ds.length) '0' ++ ds

/-- Digits whose first one has the given exponent, written without an exponent. -/
def positional (ds : List Char) (top : Int) : List Char :=
  if top < 0 then '0' :: '.' :: List.replicate (-top - 1).toNat '0' ++ ds
  else
    let whole := top.toNat + 1
    let padded := ds ++ List.replicate (whole - ds.length) '0'
    let fraction := padded.drop whole
    padded.take whole ++ '.' :: (if fraction.isEmpty then ['0'] else fraction)

/-- Digits whose first one has the given exponent, written with an exponent. -/
def scientific (l : Layout) (ds : List Char) (top : Int) : List Char :=
  let sign := if top < 0 then '-' else '+'
  let tail := 'e' :: sign :: l.exponentChars top.natAbs
  match ds with
  | [] => tail
  | [d] => d :: tail
  | d :: rest => d :: '.' :: rest ++ tail

/-- The magnitude of a finite number. -/
def magnitudeChars (l : Layout) (m : Nat) (e : Int) : List Char :=
  if m = 0 then ['0', '.', '0']
  else
    let (c, x) := Shortest.decimal m e
    let ds := Decimal.natChars c
    let top := x + ds.length - 1
    if l.least ≤ top && top ≤ l.greatest then positional ds top else l.scientific ds top

/-- A number as written in a layout. -/
def chars (l : Layout) : Binary64 → List Char
  | .nan => l.nan.toList
  | .infinity negative => (if negative then l.minusInfinity else l.infinity).toList
  | .finite negative m e =>
    if negative then '-' :: l.magnitudeChars m e else l.magnitudeChars m e

/-- A number as written in a layout, as a string. -/
def render (l : Layout) (x : Binary64) : String := String.ofList (l.chars x)

/-- Numbers inside messages: no exponent from 0.0001 up to 10^16, exponents of two digits. -/
def display : Layout :=
  { least := -4, greatest := 15, exponentDigits := 2
    nan := "nan", infinity := "inf", minusInfinity := "-inf" }

/-- Numbers inside queries: no exponent from 0.00001 up to 10^16, and null for what is not
finite. -/
def wire : Layout :=
  { least := -5, greatest := 15, exponentDigits := 1
    nan := "null", infinity := "null", minusInfinity := "null" }

end Layout

end ProverLink
