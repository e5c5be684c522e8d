import ProverLink.Number.Decimal

/-!
# Binary floating point

Numbers of the IEEE 754 format binary64, as exact values rather than as machine words: a finite one
is a significand times a power of two. `ofDecimal` rounds a decimal to the nearest of them, ties to
the even significand, and `read?` reads one from text.
-/

namespace ProverLink

/-- A number of the format binary64. A finite one has the magnitude `significand * 2 ^ exponent`. -/
inductive Binary64 where
  | nan
  | infinity (negative : Bool)
  | finite (negative : Bool) (significand : Nat) (exponent : Int)
deriving DecidableEq

namespace Binary64

/-- The significand of a normal number has 53 bits. -/
def precision : Nat := 53

/-- The least power of two that a significand is scaled by. -/
def minExponent : Int := -1074

/-- The greatest power of two that a significand is scaled by. -/
def maxExponent : Int := 971

/-- Zero of either sign. -/
def zero (negative : Bool) : Binary64 := .finite negative 0 minExponent

/-- The quotient of two natural numbers rounded to the nearest one, ties to even. -/
def roundDiv (num den : Nat) : Nat :=
  let q := num / den
  let r := num % den
  if 2 * r < den then q
  else if den < 2 * r then q + 1
  else if q % 2 = 0 then q else q + 1

/-- A quotient divided by a power of two, as a quotient. -/
def scale (num den : Nat) (exponent : Int) : Nat × Nat :=
  if 0 ≤ exponent then (num, den * Nat.pow 2 exponent.toNat)
  else (num * Nat.pow 2 (-exponent).toNat, den)

/-- The scale at which a positive quotient has a significand of 53 bits, or the least scale. -/
def exponentFor (num den : Nat) : Int :=
  let guess : Int := (num.log2 : Int) - den.log2 - 52
  let (n, d) := scale num den guess
  max minExponent (if n / d < Nat.pow 2 52 then guess - 1 else guess)

/-- The number nearest to a quotient. -/
def ofRatio (negative : Bool) (num den : Nat) : Binary64 :=
  if num = 0 then zero negative
  else
    let e := exponentFor num den
    let (n, d) := scale num den e
    let m := roundDiv n d
    let (m, e) := if m = Nat.pow 2 precision then (Nat.pow 2 52, e + 1) else (m, e)
    if maxExponent < e then .infinity negative else .finite negative m e

/-- The number nearest to `digits * 10 ^ exponent`. Exponents far outside the range are settled
without computing the power. -/
def ofDecimal (negative : Bool) (digits : Nat) (exponent : Int) : Binary64 :=
  if digits = 0 then zero negative
  else
    let size : Int := (Nat.toDigits 10 digits).length + exponent
    if 310 < size then .infinity negative
    else if size < -330 then zero negative
    else if 0 ≤ exponent then ofRatio negative (digits * Nat.pow 10 exponent.toNat) 1
    else ofRatio negative digits (Nat.pow 10 (-exponent).toNat)

/-- The number nearest to an integer. -/
def ofInt (i : Int) : Binary64 := ofDecimal (i < 0) i.natAbs 0

/-- Whether a number is above zero. -/
def isPositive : Binary64 → Bool
  | .nan => false
  | .infinity negative => !negative
  | .finite negative m _ => !negative && m != 0

/-- The integer that a number is equal to, if there is one. -/
def toInt? : Binary64 → Option Int
  | .nan => none
  | .infinity _ => none
  | .finite negative m e =>
    if 0 ≤ e then some (Decimal.signed negative (m * Nat.pow 2 e.toNat))
    else
      let d := Nat.pow 2 (-e).toNat
      if m % d = 0 then some (Decimal.signed negative (m / d)) else none

/-- A decimal numeral taken apart: the digits before and behind the point, and the exponent. -/
structure Numeral where
  whole : List Nat
  fraction : List Nat := []
  exponent : Int := 0
deriving DecidableEq

/-- The number nearest to a numeral. -/
def Numeral.value (negative : Bool) (n : Numeral) : Binary64 :=
  ofDecimal negative (Decimal.ofDigits (n.whole ++ n.fraction)) (n.exponent - n.fraction.length)

/-- The digits at the head of some characters, and the rest. -/
def spanDigits (cs : List Char) : List Nat × List Char :=
  ((cs.takeWhile Digit.isAscii).filterMap Digit.ascii?, cs.dropWhile Digit.isAscii)

/-- An exponent that takes up all characters. -/
def exponent? : List Char → Option Int
  | [] => some 0
  | e :: rest =>
    if e = 'e' || e = 'E' then
      let (negative, body) := match rest with
        | '-' :: r => (true, r)
        | '+' :: r => (false, r)
        | r => (false, r)
      match spanDigits body with
      | ([], _) => none
      | (ds, []) => some (Decimal.signed negative (Decimal.ofDigits ds))
      | _ => none
    else none

/-- A numeral that takes up all characters. Digits may be missing on one side of the point. -/
def numeral? (cs : List Char) : Option Numeral := do
  let (whole, rest) := spanDigits cs
  let (fraction, rest) := match rest with
    | '.' :: r => spanDigits r
    | r => ([], r)
  let exponent ← exponent? rest
  if whole.isEmpty && fraction.isEmpty then none else some { whole, fraction, exponent }

/-- Drops the low lines that group digits; each has to stand between two digits. -/
def dropLowLines : List Char → Option (List Char)
  | [] => some []
  | '_' :: _ => none
  | c :: '_' :: d :: rest =>
    if Digit.isAscii c && Digit.isAscii d then (dropLowLines (d :: rest)).map (c :: ·) else none
  | c :: rest => (dropLowLines rest).map (c :: ·)

/-- The ASCII character that a code point counts as inside a number: itself, or the digit of the
same value. -/
def numberChar? (p : CodePoint) : Option Char :=
  if p.val < 0x7F then some (Char.ofNat p.val)
  else (Digit.value? p.val).map fun d => Char.ofNat ('0'.toNat + d)

/-- The number that some characters without a sign stand for. -/
def unsigned? (negative : Bool) (cs : List Char) : Option Binary64 :=
  let word := String.ofList (cs.map Char.toLower)
  if word = "inf" || word = "infinity" then some (.infinity negative)
  else if word = "nan" then some .nan
  else (numeral? cs).map (Numeral.value negative)

/-- Reads a number from a text that has no white space around it. -/
def read? (t : Text) : Option Binary64 := do
  let cs ← t.mapM numberChar?
  let cs ← dropLowLines cs
  match cs with
  | '-' :: rest => unsigned? true rest
  | '+' :: rest => unsigned? false rest
  | _ => unsigned? false cs

end Binary64

end ProverLink
