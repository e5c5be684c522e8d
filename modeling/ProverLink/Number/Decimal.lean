import ProverLink.Text.Blank
import ProverLink.Text.Digit

/-!
# Integers in decimal

Reading and writing integers in base ten. An integer of more than `maxDigits` digits is neither read
nor written. Two grammars of integers in text occur: `read?` takes the digits of every script, and
`readPlain?` takes ASCII digits, zeros in front of them and a fraction of zeros.
-/

namespace ProverLink.Decimal

/-- The most digits that an integer in decimal may have. -/
def maxDigits : Nat := 4300

/-- The number that a list of decimal digits stands for, the first one being the most
significant. -/
def ofDigits (ds : List Nat) : Nat := ds.foldl (fun n d => 10 * n + d) 0

/-- The decimal digits of a natural number. -/
def natChars (n : Nat) : List Char := Nat.toDigits 10 n

/-- An integer in decimal. -/
def intChars : Int → List Char
  | .ofNat n => natChars n
  | .negSucc n => '-' :: natChars (n + 1)

/-- An integer in decimal, as a string. -/
def render (i : Int) : String := String.ofList (intChars i)

/-- Whether an integer has more digits than can be written. -/
def isTooLong (i : Int) : Bool := Nat.pow 10 maxDigits ≤ i.natAbs

/-- An integer in decimal, unless it is too long. -/
def render? (i : Int) : Option String := if isTooLong i then none else some (render i)

/-- The values of a run of digits in which a single bar may stand between two of them. -/
def run? {α β : Type} (value? : α → Option β) (isBar : α → Bool) : List α → Option (List β)
  | [] => none
  | [x] => (value? x).map ([·])
  | x :: y :: rest => do
    let d ← value? x
    let ds ← if isBar y then run? value? isBar rest else run? value? isBar (y :: rest)
    pure (d :: ds)

/-- The low line, which may group digits. -/
def isLowLine (p : CodePoint) : Bool := p.val == '_'.toNat

/-- Splits a sign off a text; true means minus. -/
def splitSign : Text → Bool × Text
  | [] => (false, [])
  | p :: rest =>
    if p.val == '-'.toNat then (true, rest)
    else if p.val == '+'.toNat then (false, rest)
    else (false, p :: rest)

/-- An absolute value with its sign put back. -/
def signed (negative : Bool) (n : Nat) : Int := if negative then -(n : Int) else n

/-- An integer in digits of any script, white space around it. -/
def read? (t : Text) : Option Int := do
  let (negative, body) := splitSign (Blank.trimSpace t)
  let ds ← run? (fun p => Digit.value? p.val) isLowLine body
  if maxDigits < ds.length then none else some (signed negative (ofDigits ds))

/-- The value of an ASCII digit among code points. -/
def plain? (p : CodePoint) : Option Nat :=
  if '0'.toNat ≤ p.val && p.val ≤ '9'.toNat then some (p.val - '0'.toNat) else none

/-- The minus sign among code points. -/
def isMinus (p : CodePoint) : Bool := p.val == '-'.toNat

/-- The zero among code points. -/
def isZero (p : CodePoint) : Bool := p.val == '0'.toNat

/-- Whether a text is empty or is a point with at least one zero, and zeros only, behind it. -/
def isZeroFraction : Text → Bool
  | [] => true
  | _ :: [] => false
  | p :: zeros => p.val == '.'.toNat && zeros.all isZero

/-- A text up to its point, if only zeros are behind that. -/
def dropFraction? (t : Text) : Option Text :=
  let whole := t.takeWhile (·.val != '.'.toNat)
  if isZeroFraction (t.drop whole.length) then some whole else none

/-- Whether a number without zeros in front can start here. -/
def isLeading (p : CodePoint) : Bool := isMinus p || (plain? p).isSome

/-- What is left behind a zero or a low line when the zeros and low lines that follow are dropped.
Where nothing follows them, the last one stays. -/
def behindZero? (last : CodePoint) : Text → Option Text
  | [] => some [last]
  | p :: rest =>
    if isZero p || isLowLine p then behindZero? p rest
    else if isLeading p then some (p :: rest)
    else none

/-- A number without the zeros in front of it. A minus may follow the zeros. -/
def dropZeros? : Text → Option Text
  | [] => none
  | p :: rest =>
    if isZero p then behindZero? p rest
    else if isLeading p then some (p :: rest)
    else none

/-- A number without a plus and without the zeros behind its sign. -/
def dropPadding? (t : Text) : Option Text :=
  match t with
  | [] => none
  | p :: rest =>
    if isMinus p then (dropZeros? rest).map (p :: ·)
    else if p.val == '+'.toNat then
      if rest.head?.any isMinus then none else dropZeros? rest
    else dropZeros? t

/-- A text without its low lines, if each stands alone between other code points. -/
def ungroup? (t : Text) : Option Text :=
  run? (fun p => if isLowLine p then none else some p) isLowLine t

/-- An integer in ASCII digits: zero, or digits with no zero in front, behind a minus or not. -/
def bare? (t : Text) : Option Int := do
  let negative := t.head?.any isMinus
  let ds ← (if negative then t.drop 1 else t).mapM plain?
  if ds.isEmpty || maxDigits < ds.length then none
  else if ds.head? = some 0 && 1 < ds.length then none
  else some (signed negative (ofDigits ds))

/-- An integer in ASCII digits, with white space around it, zeros and low lines in front of it and a
fraction of zeros behind it. -/
def readPlain? (t : Text) : Option Int := do
  let whole ← dropFraction? (Blank.trimSpace t)
  let number ← dropPadding? whole
  let digits ← ungroup? number
  bare? digits

end ProverLink.Decimal
