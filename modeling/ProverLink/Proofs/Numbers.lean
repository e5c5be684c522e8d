import Mathlib.Data.List.Basic
import Mathlib.Data.List.TakeWhile
import Mathlib.Tactic.Common
import ProverLink.Number.Binary64

/-!
# Numbers that are written and read again

A natural number in decimal is read as itself, unless it has too many digits, and then it is not
read at all. Different numbers are written differently.
-/

namespace ProverLink

/-- A character of a number in decimal. -/
lemma Decimal.range_of_mem_natChars {n : Nat} {c : Char} (h : c ∈ natChars n) :
    48 ≤ c.toNat ∧ c.toNat ≤ 57 := by
  have hdigit : c.isDigit = true := Nat.isDigit_of_mem_toDigits (by decide) (by decide) h
  rw [Char.isDigit, Bool.and_eq_true, decide_eq_true_eq, decide_eq_true_eq] at hdigit
  exact hdigit

lemma Decimal.range_of_mem_ofChars {n : Nat} {p : CodePoint} (h : p ∈ Text.ofChars (natChars n)) :
    48 ≤ p.val ∧ p.val ≤ 57 := by
  obtain ⟨c, hc, rfl⟩ := List.mem_map.1 h
  exact range_of_mem_natChars hc

lemma Decimal.natChars_injective {m n : Nat} (h : natChars m = natChars n) : m = n := by
  have hvalue := congrArg (fun cs => Nat.ofDigitChars 10 cs 0) h
  simpa only [natChars, Nat.ofDigitChars_ten_toDigits] using hvalue

/-! ### Digits -/

lemma Digit.value?_of_range {n : Nat} (hlow : 48 ≤ n) (hhigh : n ≤ 57) :
    value? n = some (n - 48) := by
  have hfind : zeros.find? (fun z => z ≤ n && n < z + 10) = some 48 := by
    rw [zeros, List.find?_cons_of_pos]
    simp only [Bool.and_eq_true, decide_eq_true_eq]
    omega
  rw [value?, hfind]
  rfl

lemma Digit.isAscii_iff {c : Char} : isAscii c = true ↔ 48 ≤ c.toNat ∧ c.toNat ≤ 57 := by
  rw [isAscii, Bool.and_eq_true, decide_eq_true_eq, decide_eq_true_eq]
  exact Iff.rfl

lemma Digit.ne_of_isAscii {c d : Char} (hc : isAscii c = true) (hd : isAscii d = false) :
    d ≠ c := by
  rintro rfl
  rw [hd] at hc
  cases hc

lemma Digit.ascii?_of_isAscii {c : Char} (h : isAscii c = true) :
    ascii? c = some (c.toNat - 48) := by
  rw [isAscii] at h
  rw [ascii?, if_pos h]
  rfl

lemma Decimal.isAscii_of_mem_natChars {n : Nat} {c : Char} (h : c ∈ natChars n) :
    Digit.isAscii c = true := Digit.isAscii_iff.2 (range_of_mem_natChars h)

lemma Decimal.natChars_ne_nil (n : Nat) : natChars n ≠ [] := Nat.toDigits_ne_nil

lemma Decimal.exists_natChars_cons (n : Nat) :
    ∃ c cs, natChars n = c :: cs ∧ Digit.isAscii c = true := by
  cases hcs : natChars n with
  | nil => exact absurd hcs (natChars_ne_nil n)
  | cons c cs => exact ⟨c, cs, rfl, isAscii_of_mem_natChars (hcs ▸ List.mem_cons_self)⟩

lemma Decimal.ofDigits_map (ds : List Char) :
    ofDigits (ds.map fun c => c.toNat - 48) = Nat.ofDigitChars 10 ds 0 := by
  rw [ofDigits, List.foldl_map]
  rfl

lemma Decimal.ofDigits_natChars (n : Nat) :
    ofDigits ((natChars n).map fun c => c.toNat - 48) = n := by
  rw [ofDigits_map]
  exact Nat.ofDigitChars_ten_toDigits

/-- Digits in front of something else. -/
lemma Binary64.spanDigits_append {ds rest : List Char} (h : ∀ c ∈ ds, Digit.isAscii c = true)
    (hrest : ∀ c ∈ rest.head?, Digit.isAscii c = false) :
    spanDigits (ds ++ rest) = (ds.map fun c => c.toNat - 48, rest) := by
  have hnone : rest.takeWhile Digit.isAscii = [] ∧ rest.dropWhile Digit.isAscii = rest := by
    cases rest with
    | nil => exact ⟨rfl, rfl⟩
    | cons c rest =>
      have hc := hrest c rfl
      exact ⟨List.takeWhile_cons_of_neg (by simp [hc]), List.dropWhile_cons_of_neg (by simp [hc])⟩
  have hdigits : ds.filterMap Digit.ascii? = ds.map fun c => c.toNat - 48 := by
    rw [← List.filterMap_eq_map]
    exact List.filterMap_congr fun c hc => Digit.ascii?_of_isAscii (h c hc)
  rw [spanDigits, List.takeWhile_append_of_pos h, List.dropWhile_append_of_pos h, hnone.1, hnone.2,
    List.append_nil, hdigits]

lemma Blank.isSpace_of_range {n : Nat} (hlow : 48 ≤ n) (hhigh : n ≤ 57) : isSpace n = false := by
  simp only [isSpace, Bool.or_eq_false_iff, Bool.and_eq_false_iff, decide_eq_false_iff_not,
    beq_eq_false_iff_ne]
  omega

/-- What has nothing to drop at its ends stays. -/
lemma Blank.trim_of_forall {α : Type} {p : α → Bool} {xs : List α} (h : ∀ x ∈ xs, p x = false) :
    trim p xs = xs := by
  have hdrop : ∀ ys : List α, (∀ y ∈ ys, p y = false) → ys.dropWhile p = ys := by
    intro ys hys
    cases ys with
    | nil => rfl
    | cons y rest => rw [List.dropWhile_cons_of_neg (by simp [hys y])]
  rw [trim, trimEnd, hdrop xs h, hdrop xs.reverse fun y hy => h y (List.mem_reverse.1 hy),
    List.reverse_reverse]

namespace Decimal

lemma splitSign_of_digits {t : Text} (h : ∀ p ∈ t, 48 ≤ p.val) : splitSign t = (false, t) := by
  cases t with
  | nil => rfl
  | cons p rest =>
    have hp := h p List.mem_cons_self
    rw [splitSign, if_neg, if_neg]
    · simp; omega
    · simp; omega

lemma run?_of_digits {t : Text} (hne : t ≠ []) (h : ∀ p ∈ t, 48 ≤ p.val ∧ p.val ≤ 57) :
    run? (fun p : CodePoint => Digit.value? p.val) isLowLine t
      = some (t.map fun p => p.val - 48) := by
  induction t with
  | nil => exact absurd rfl hne
  | cons p rest ih =>
    have hp := h p List.mem_cons_self
    have hvalue := Digit.value?_of_range hp.1 hp.2
    cases rest with
    | nil => simp [run?, hvalue]
    | cons q rest =>
      have hq := h q (List.mem_cons_of_mem _ List.mem_cons_self)
      have hbar : isLowLine q = false := by
        simp [isLowLine]
        omega
      have hrest := ih (by simp) fun x hx => h x (List.mem_cons_of_mem _ hx)
      rw [run?, hvalue]
      simp [hbar, hrest]

/-- A number that is written is read again, unless it is too long. -/
lemma read?_natChars (n : Nat) :
    read? (Text.ofChars (natChars n))
      = if maxDigits < (natChars n).length then none else some (n : Int) := by
  have hrange : ∀ p ∈ Text.ofChars (natChars n), 48 ≤ p.val ∧ p.val ≤ 57 := fun _ =>
    range_of_mem_ofChars
  have hne : Text.ofChars (natChars n) ≠ [] := by
    simp [Text.ofChars, natChars]
  have htrim : Blank.trimSpace (Text.ofChars (natChars n)) = Text.ofChars (natChars n) :=
    Blank.trim_of_forall fun p hp => Blank.isSpace_of_range (hrange p hp).1 (hrange p hp).2
  have hdigits : ofDigits ((Text.ofChars (natChars n)).map fun p => p.val - 48) = n := by
    rw [ofDigits, Text.ofChars, List.map_map, List.foldl_map]
    exact Nat.ofDigitChars_ten_toDigits
  rw [read?, htrim, splitSign_of_digits fun p hp => (hrange p hp).1]
  simp only [run?_of_digits hne hrange, Option.bind_eq_bind, Option.bind_some, hdigits]
  simp [signed, Text.ofChars]

end Decimal

end ProverLink
