/-!
# Code points and texts

A `Text` is a sequence of Unicode code points. It differs from a sequence of characters in that it
may hold surrogates: the escape `\ud800` of a JSON string names a code point that is no character.
`joinPairs` puts a high surrogate and the low surrogate behind it together.
-/

namespace ProverLink

/-- A Unicode code point, surrogates included. -/
structure CodePoint where
  val : Nat
  isLt : val < 0x110000
deriving DecidableEq

/-- A sequence of code points. -/
abbrev Text := List CodePoint

namespace CodePoint

/-- The code point of a character. -/
def ofChar (c : Char) : CodePoint :=
  ⟨c.toNat, by
    have h := c.valid
    simp only [UInt32.isValidChar, Nat.isValidChar] at h
    show c.val.toNat < _
    omega⟩

/-- The code point with a given number; numbers past the last one give the replacement mark. -/
def ofNat (n : Nat) : CodePoint :=
  if h : n < 0x110000 then ⟨n, h⟩ else ⟨0xFFFD, by decide⟩

/-- First half of a surrogate pair. -/
def isHigh (p : CodePoint) : Bool := 0xD800 ≤ p.val && p.val < 0xDC00

/-- Second half of a surrogate pair. -/
def isLow (p : CodePoint) : Bool := 0xDC00 ≤ p.val && p.val < 0xE000

/-- A code point that is no character. -/
def isSurrogate (p : CodePoint) : Bool := 0xD800 ≤ p.val && p.val < 0xE000

/-- The character at a code point, if it is one. -/
def toChar? (p : CodePoint) : Option Char :=
  if p.isSurrogate then none else some (Char.ofNat p.val)

/-- The code point that a high and a low surrogate stand for together. -/
def join (high low : CodePoint) : CodePoint :=
  ofNat (0x10000 + (high.val - 0xD800) * 0x400 + (low.val - 0xDC00))

theorem val_ofChar (c : Char) : (ofChar c).val = c.toNat := rfl

theorem isSurrogate_ofChar (c : Char) : (ofChar c).isSurrogate = false := by
  have h := c.valid
  simp only [UInt32.isValidChar, Nat.isValidChar] at h
  have hc : c.toNat = c.val.toNat := rfl
  rw [isSurrogate, val_ofChar, hc, ← Bool.decide_and, decide_eq_false_iff_not]
  omega

theorem toChar?_ofChar (c : Char) : (ofChar c).toChar? = some c := by
  simp [toChar?, isSurrogate_ofChar, val_ofChar]

end CodePoint

namespace Text

/-- The code points of a list of characters. -/
def ofChars (cs : List Char) : Text := cs.map CodePoint.ofChar

/-- The code points of a string. -/
def ofString (s : String) : Text := ofChars s.toList

instance : Coe String Text := ⟨ofString⟩

/-- The characters of a text that holds no surrogate. -/
def toChars? (t : Text) : Option (List Char) := t.mapM CodePoint.toChar?

/-- The string of a text that holds no surrogate. -/
def toString? (t : Text) : Option String := t.toChars?.map String.ofList

/-- Whether some code point of the text is no character. -/
def hasSurrogate (t : Text) : Bool := t.any CodePoint.isSurrogate

/-- Replaces each high surrogate that a low one follows, and that low one, by the code point the two
stand for. -/
def joinPairs : Text → Text
  | [] => []
  | [p] => [p]
  | p :: q :: rest =>
    if p.isHigh && q.isLow then p.join q :: joinPairs rest else p :: joinPairs (q :: rest)

/-- Replaces each surrogate by three replacement marks, one for each of the bytes it would take. -/
def mended (t : Text) : Text :=
  t.flatMap fun p => if p.isSurrogate then List.replicate 3 (.ofChar '\ufffd') else [p]

/-- Lexicographic order by code point. -/
def le : Text → Text → Bool
  | [], _ => true
  | _ :: _, [] => false
  | p :: s, q :: t => p.val < q.val || (p.val == q.val && le s t)

theorem toChars?_ofChars (cs : List Char) : (ofChars cs).toChars? = some cs := by
  induction cs with
  | nil => rfl
  | cons c rest ih =>
    simp only [toChars?, ofChars, List.map_cons, List.mapM_cons, CodePoint.toChar?_ofChar] at ih ⊢
    simp [ih]

theorem toString?_ofString (s : String) : (ofString s).toString? = some s := by
  simp [toString?, ofString, toChars?_ofChars]

end Text

end ProverLink
