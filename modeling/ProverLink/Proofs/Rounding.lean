import Mathlib.Algebra.Order.Field.Power
import Mathlib.Data.Rat.Floor
import Mathlib.Tactic.FieldSimp
import Mathlib.Tactic.Linarith
import Mathlib.Tactic.NormNum.Pow
import Mathlib.Tactic.Positivity
import ProverLink.Number.Binary64

/-!
# Rounding to the nearest number

What reading a decimal does, seen on rational numbers. A number of the format captures the rationals
that are nearer to it than to any other number; one in the middle goes to the even side. So a
decimal is rounded to the number that captures it.
-/

namespace ProverLink.Binary64

/-! ### Nearest integers -/

/-- An integer is nearest to a number; of two equally near ones it is the even one. -/
structure Near (y : ℚ) (k : Nat) : Prop where
  low : (k : ℚ) - 1 / 2 ≤ y
  high : y ≤ k + 1 / 2
  odd : k % 2 = 1 → (k : ℚ) - 1 / 2 < y ∧ y < k + 1 / 2

lemma Near.le_of_near {y : ℚ} {j k : Nat} (hj : Near y j) (hk : Near y k) : j ≤ k := by
  by_contra hlt
  have hsucc : (k : ℚ) + 1 ≤ j := by exact_mod_cast Nat.lt_of_not_le hlt
  -- both ends meet in the middle, and one of the two is odd
  have hmid : (j : ℚ) = k + 1 := by linarith [hj.low, hk.high]
  have hjk : j = k + 1 := by exact_mod_cast hmid
  rcases Nat.mod_two_eq_zero_or_one k with hpar | hpar
  · linarith [(hj.odd (by omega)).1, hk.high]
  · linarith [(hk.odd hpar).2, hj.low]

lemma Near.unique {y : ℚ} {j k : Nat} (hj : Near y j) (hk : Near y k) : j = k :=
  Nat.le_antisymm (hj.le_of_near hk) (hk.le_of_near hj)

section Half

variable {n den : Nat} (hden : 0 < den)

include hden

lemma two_mul_lt_iff : 2 * n < den ↔ (n : ℚ) / den < 1 / 2 := by
  rw [div_lt_div_iff₀ (Nat.cast_pos.2 hden) two_pos, one_mul, mul_comm (n : ℚ)]
  exact_mod_cast Iff.rfl

lemma lt_two_mul_iff : den < 2 * n ↔ 1 / 2 < (n : ℚ) / den := by
  rw [div_lt_div_iff₀ two_pos (Nat.cast_pos.2 hden), one_mul, mul_comm (n : ℚ)]
  exact_mod_cast Iff.rfl

end Half

lemma near_roundDiv (num : Nat) {den : Nat} (hden : 0 < den) :
    Near ((num : ℚ) / den) (roundDiv num den) := by
  have hd : (0 : ℚ) < den := Nat.cast_pos.2 hden
  have hsplit : (num : ℚ) / den = (num / den : Nat) + (num % den : Nat) / den := by
    rw [eq_comm, add_comm, div_add' _ _ _ hd.ne', ← Nat.cast_mul, ← Nat.cast_add,
      Nat.mul_comm, Nat.mod_add_div]
  have hr : num % den < den := Nat.mod_lt _ hden
  have hrest : ((num % den : Nat) : ℚ) / den < 1 := (div_lt_one hd).2 (Nat.cast_lt.2 hr)
  have hrest' : (0 : ℚ) ≤ ((num % den : Nat) : ℚ) / den := by positivity
  rw [hsplit, roundDiv]
  generalize num / den = q
  generalize num % den = r at *
  split
  · rename_i hlt
    have ht := (two_mul_lt_iff hden).1 hlt
    exact ⟨by linarith, by linarith, fun _ => ⟨by linarith, by linarith⟩⟩
  rename_i hge
  have ht := mt (two_mul_lt_iff hden).2 hge
  split
  · rename_i hgt
    have ht' := (lt_two_mul_iff hden).1 hgt
    refine ⟨?_, ?_, fun _ => ⟨?_, ?_⟩⟩
    all_goals
      push_cast
      linarith
  rename_i hle
  have ht' := mt (lt_two_mul_iff hden).2 hle
  split
  · exact ⟨by linarith, by linarith, fun h => by omega⟩
  · refine ⟨?_, ?_, fun _ => by omega⟩
    all_goals
      push_cast
      linarith

/-! ### Quotients -/

lemma pow_two_pos (e : Int) : (0 : ℚ) < 2 ^ e := zpow_pos two_pos e

lemma natPow_cast (b k : Nat) : ((Nat.pow b k : Nat) : ℚ) = (b : ℚ) ^ (k : Int) := by
  rw [Nat.pow_eq, Nat.cast_pow, zpow_natCast]

/-- A quotient that is scaled is divided by the power of two. -/
lemma scale_spec (num : Nat) {den : Nat} (hden : 0 < den) (e : Int) :
    0 < (scale num den e).2 ∧
      ((scale num den e).1 : ℚ) / (scale num den e).2 = (num : ℚ) / den / 2 ^ e := by
  have hpow : ∀ k, 0 < Nat.pow 2 k := fun k => Nat.pow_pos two_pos
  rw [scale]
  split
  · rename_i he
    refine ⟨Nat.mul_pos hden (hpow _), ?_⟩
    rw [Nat.cast_mul, natPow_cast, Int.toNat_of_nonneg he, Nat.cast_ofNat, div_div]
  · rename_i he
    refine ⟨hden, ?_⟩
    rw [Nat.cast_mul, natPow_cast, Int.toNat_of_nonneg (by omega), Nat.cast_ofNat, zpow_neg]
    field_simp

/-! ### The scale -/

/-- The scale of a number: its significand has 53 bits, or the scale is the least one. -/
structure IsScale (x : ℚ) (e : Int) : Prop where
  least : minExponent ≤ e
  lt : x / 2 ^ e < 2 ^ 53
  le : (2 : ℚ) ^ 52 ≤ x / 2 ^ e ∨ e = minExponent

lemma IsScale.le_of_isScale {x : ℚ} {d e : Int} (hd : IsScale x d) (he : IsScale x e) : d ≤ e := by
  by_contra hlt
  have hnormal : (2 : ℚ) ^ 52 ≤ x / 2 ^ d := hd.le.resolve_right (by have := he.least; omega)
  have hstep : (2 : ℚ) ^ (e + 1) ≤ 2 ^ d := zpow_le_zpow_right₀ one_le_two (by omega)
  have hx := (le_div_iff₀ (pow_two_pos d)).1 hnormal
  have hx' := (div_lt_iff₀ (pow_two_pos e)).1 he.lt
  rw [zpow_add_one₀ two_ne_zero] at hstep
  linarith

lemma IsScale.unique {x : ℚ} {d e : Int} (hd : IsScale x d) (he : IsScale x e) : d = e :=
  le_antisymm (hd.le_of_isScale he) (he.le_of_isScale hd)

/-- The quotient of two numbers lies around the quotient of the powers of two below them. -/
lemma log2_bounds {n : Nat} (h : 0 < n) :
    (2 : ℚ) ^ (n.log2 : Int) ≤ n ∧ (n : ℚ) < 2 * 2 ^ (n.log2 : Int) := by
  rw [zpow_natCast, ← pow_succ']
  exact ⟨by exact_mod_cast Nat.log2_self_le h.ne', by exact_mod_cast Nat.lt_log2_self⟩

/-- Behind the first guess the significand has 52 or 53 bits. -/
lemma guess_bounds {num den : Nat} (hnum : 0 < num) (hden : 0 < den) :
    (2 : ℚ) ^ 51 < (num : ℚ) / den / 2 ^ ((num.log2 : Int) - den.log2 - 52) ∧
      (num : ℚ) / den / 2 ^ ((num.log2 : Int) - den.log2 - 52) < 2 ^ 53 := by
  obtain ⟨hnum₁, hnum₂⟩ := log2_bounds hnum
  obtain ⟨hden₁, hden₂⟩ := log2_bounds hden
  have hd : (0 : ℚ) < den := Nat.cast_pos.2 hden
  have hn := pow_two_pos num.log2
  have hpow : (2 : ℚ) ^ ((num.log2 : Int) - den.log2 - 52) * 2 ^ (den.log2 : Int) * 2 ^ 52
      = 2 ^ (num.log2 : Int) := by
    rw [← zpow_natCast 2 52, ← zpow_add₀ two_ne_zero, ← zpow_add₀ two_ne_zero]
    congr 1
    push_cast
    ring
  have hp := pow_two_pos ((num.log2 : Int) - den.log2 - 52)
  generalize (2 : ℚ) ^ ((num.log2 : Int) - den.log2 - 52) = p at *
  rw [div_div, lt_div_iff₀ (mul_pos hd hp), div_lt_iff₀ (mul_pos hd hp)]
  have hlow := mul_lt_mul_of_pos_right hden₂ hp
  have hhigh := mul_le_mul_of_nonneg_right hden₁ hp.le
  constructor <;> linarith

lemma isScale_exponentFor {num den : Nat} (hnum : 0 < num) (hden : 0 < den) :
    IsScale ((num : ℚ) / den) (exponentFor num den) := by
  obtain ⟨hlow, hhigh⟩ := guess_bounds hnum hden
  rw [exponentFor]
  generalize (num.log2 : Int) - den.log2 - 52 = guess at *
  obtain ⟨hd, hscale⟩ := scale_spec num hden guess
  rcases hs : scale num den guess with ⟨n, d⟩
  rw [hs] at hd hscale
  dsimp only at hd hscale ⊢
  have hdiv : n / d < Nat.pow 2 52 ↔ (num : ℚ) / den / 2 ^ guess < 2 ^ 52 := by
    rw [← hscale, Nat.div_lt_iff_lt_mul hd, div_lt_iff₀ (Nat.cast_pos.2 hd)]
    exact_mod_cast Iff.rfl
  -- the scale that fits without a least one
  obtain ⟨e, he, hfit, hfit'⟩ : ∃ e, (if n / d < Nat.pow 2 52 then guess - 1 else guess) = e ∧
      (2 : ℚ) ^ 52 ≤ (num : ℚ) / den / 2 ^ e ∧ (num : ℚ) / den / 2 ^ e < 2 ^ 53 := by
    by_cases hn : n / d < Nat.pow 2 52
    · refine ⟨guess - 1, if_pos hn, ?_⟩
      have hhalf := hdiv.1 hn
      rw [zpow_sub_one₀ two_ne_zero, ← div_div, div_inv_eq_mul]
      constructor <;> linarith
    · exact ⟨guess, if_neg hn, le_of_not_gt (mt hdiv.2 hn), hhigh⟩
  rw [he]
  rcases le_total minExponent e with hmin | hmin
  · rw [max_eq_right hmin]
    exact ⟨hmin, hfit', .inl hfit⟩
  · rw [max_eq_left hmin]
    refine ⟨le_rfl, lt_of_le_of_lt ?_ hfit', .inr rfl⟩
    have hx : (0 : ℚ) ≤ (num : ℚ) / den := by positivity
    exact div_le_div_of_nonneg_left hx (pow_two_pos e) (zpow_le_zpow_right₀ one_le_two hmin)

/-! ### Numbers of the format -/

/-- Finite numbers of the format: the significand has 53 bits, or the scale is the least one. -/
structure InFormat (m : Nat) (e : Int) : Prop where
  lt : m < Nat.pow 2 precision
  least : minExponent ≤ e
  greatest : e ≤ maxExponent
  normal : Nat.pow 2 52 ≤ m ∨ e = minExponent

/-- How far below a significand the numbers begin that are rounded to it. Below a power of two they
are half as far apart. -/
def gapBelow (m : Nat) (e : Int) : ℚ := if m = Nat.pow 2 52 ∧ minExponent < e then 1 / 4 else 1 / 2

/-- The numbers that are rounded to `m * 2 ^ e`; the ends are among them if `m` is even. -/
structure Captures (m : Nat) (e : Int) (x : ℚ) : Prop where
  low : m - gapBelow m e ≤ x / 2 ^ e
  high : x / 2 ^ e ≤ m + 1 / 2
  odd : m % 2 = 1 → m - gapBelow m e < x / 2 ^ e ∧ x / 2 ^ e < m + 1 / 2

/-- The number nearest to a quotient, by the scale of the quotient. -/
lemma ofRatio_eq {num den : Nat} (hnum : 0 < num) (hden : 0 < den) {e : Int} {k : Nat}
    (he : IsScale ((num : ℚ) / den) e) (hk : Near ((num : ℚ) / den / 2 ^ e) k) (negative : Bool) :
    ofRatio negative num den =
      if k = Nat.pow 2 precision then
        if maxExponent < e + 1 then .infinity negative else .finite negative (Nat.pow 2 52) (e + 1)
      else if maxExponent < e then .infinity negative else .finite negative k e := by
  obtain rfl := (isScale_exponentFor hnum hden).unique he
  obtain ⟨hd, hscale⟩ := scale_spec num hden (exponentFor num den)
  rw [ofRatio, if_neg hnum.ne']
  dsimp only
  rcases hs : scale num den (exponentFor num den) with ⟨n, d⟩
  rw [hs] at hd hscale
  dsimp only at hd hscale ⊢
  obtain rfl := (near_roundDiv n hd).unique (hscale ▸ hk)
  split <;> rfl

lemma gapBelow_le (m : Nat) (e : Int) : gapBelow m e ≤ 1 / 2 := by
  rw [gapBelow]
  split <;> norm_num

lemma captures_self (m : Nat) (e : Int) : Captures m e (m * 2 ^ e) := by
  have hgap : 0 < gapBelow m e := by
    rw [gapBelow]
    split <;> norm_num
  refine ⟨?_, ?_, fun _ => ⟨?_, ?_⟩⟩
  all_goals
    rw [mul_div_cancel_right₀ _ (pow_two_pos e).ne']
    linarith

lemma Captures.pos {m : Nat} {e : Int} (hm : 0 < m) {x : ℚ} (hx : Captures m e x) : 0 < x := by
  have hlow := hx.low
  have hgap := gapBelow_le m e
  have hm' : (1 : ℚ) ≤ m := by exact_mod_cast hm
  have hdiv : 0 < x / 2 ^ e := by linarith
  exact (div_pos_iff_of_pos_right (pow_two_pos e)).1 hdiv

/-- The numbers of the format are found again from all that is rounded to them. -/
lemma ofRatio_of_captures {m : Nat} {e : Int} (h : InFormat m e) (hm : 0 < m) {num den : Nat}
    (hden : 0 < den) (hx : Captures m e ((num : ℚ) / den)) (negative : Bool) :
    ofRatio negative num den = .finite negative m e := by
  have hd : (0 : ℚ) < den := Nat.cast_pos.2 hden
  have hnum : 0 < num := by exact_mod_cast (div_pos_iff_of_pos_right hd).1 (hx.pos hm)
  have hgap := gapBelow_le m e
  have hlt : (m : ℚ) + 1 ≤ 2 ^ 53 := by exact_mod_cast h.lt
  by_cases hscale : (2 : ℚ) ^ 52 ≤ (num : ℚ) / den / 2 ^ e ∨ e = minExponent
  · have hs : IsScale ((num : ℚ) / den) e := ⟨h.least, by linarith [hx.high], hscale⟩
    have hk : Near ((num : ℚ) / den / 2 ^ e) m :=
      ⟨by linarith [hx.low], hx.high, fun hodd => ⟨by linarith [(hx.odd hodd).1], (hx.odd hodd).2⟩⟩
    rw [ofRatio_eq hnum hden hs hk, if_neg (Nat.ne_of_lt h.lt), if_neg (not_lt.2 h.greatest)]
  · -- a power of two that is reached from below, where the scale is one less
    rw [not_or, not_le] at hscale
    have hnormal : Nat.pow 2 52 ≤ m := h.normal.resolve_right hscale.2
    have hm52 : m = Nat.pow 2 52 := by
      refine le_antisymm ?_ hnormal
      have hbelow : (m : ℚ) < 2 ^ 52 + 1 := by linarith [hx.low]
      exact Nat.lt_succ_iff.1 (by exact_mod_cast hbelow)
    have hmin : minExponent < e := lt_of_le_of_ne h.least (Ne.symm hscale.2)
    have hlow := hx.low
    rw [gapBelow, if_pos ⟨hm52, hmin⟩] at hlow
    have hcast : (m : ℚ) = 2 ^ 52 := by
      rw [hm52]
      norm_num
    have hhalf : (num : ℚ) / den / 2 ^ (e - 1) = 2 * ((num : ℚ) / den / 2 ^ e) := by
      rw [zpow_sub_one₀ two_ne_zero, ← div_div, div_inv_eq_mul, mul_comm]
    have hs : IsScale ((num : ℚ) / den) (e - 1) := by
      refine ⟨by omega, ?_, .inl ?_⟩
      · rw [hhalf]
        linarith
      · rw [hhalf]
        linarith
    have hk : Near ((num : ℚ) / den / 2 ^ (e - 1)) (Nat.pow 2 precision) := by
      have hprec : ((Nat.pow 2 precision : Nat) : ℚ) = 2 ^ 53 := by norm_num [precision]
      refine ⟨?_, ?_, fun hodd => absurd hodd (by decide)⟩
      · rw [hhalf, hprec]
        linarith
      · rw [hhalf, hprec]
        linarith
    rw [ofRatio_eq hnum hden hs hk, if_pos rfl, sub_add_cancel, if_neg (not_lt.2 h.greatest), hm52]

/-- A number of the format, or one that is not finite. -/
def IsRegular : Binary64 → Prop
  | .finite _ m e => InFormat m e
  | _ => True

lemma isRegular_zero (negative : Bool) : (zero negative).IsRegular :=
  ⟨by decide, le_rfl, by decide, .inr rfl⟩

/-- Rounding gives numbers of the format. -/
lemma isRegular_ofRatio (negative : Bool) (num : Nat) {den : Nat} (hden : 0 < den) :
    (ofRatio negative num den).IsRegular := by
  rcases Nat.eq_zero_or_pos num with rfl | hnum
  · rw [ofRatio, if_pos rfl]
    exact isRegular_zero negative
  have hs := isScale_exponentFor hnum hden
  obtain ⟨hd, hscale⟩ := scale_spec num hden (exponentFor num den)
  have hk := near_roundDiv (scale num den (exponentFor num den)).1 hd
  rw [hscale] at hk
  rw [ofRatio_eq hnum hden hs hk]
  generalize roundDiv _ _ = k at hk
  generalize exponentFor num den = e at *
  have hle : k ≤ Nat.pow 2 precision := by
    have : (k : ℚ) < 2 ^ 53 + 1 := by linarith [hk.low, hs.lt]
    exact Nat.lt_succ_iff.1 (by exact_mod_cast this)
  split
  · split
    · trivial
    · exact ⟨by decide, by have := hs.least; omega, by omega, .inl le_rfl⟩
  · rename_i hne
    split
    · trivial
    · refine ⟨lt_of_le_of_ne hle hne, hs.least, by omega, hs.le.imp (fun hnormal => ?_) id⟩
      have : (2 : ℚ) ^ 52 < k + 1 := by linarith [hk.high]
      exact Nat.lt_succ_iff.1 (by exact_mod_cast this)

/-! ### Decimals -/

/-- A number has as many decimal digits as its size says. -/
lemma digits_bounds {n : Nat} (hn : 0 < n) :
    (10 : ℚ) ^ (((Nat.toDigits 10 n).length : Int) - 1) ≤ n ∧
      (n : ℚ) < 10 ^ ((Nat.toDigits 10 n).length : Int) := by
  obtain ⟨k, hk⟩ : ∃ k, (Nat.toDigits 10 n).length = k + 1 :=
    ⟨_, (Nat.succ_pred_eq_of_pos Nat.length_toDigits_pos).symm⟩
  have hle : 10 ^ k ≤ n := by
    rcases Nat.eq_zero_or_pos k with rfl | hpos
    · exact hn
    · have hlength := mt (Nat.length_toDigits_le_iff (b := 10) (by decide) hpos).2
        (show ¬ (Nat.toDigits 10 n).length ≤ k by omega)
      exact Nat.le_of_not_lt hlength
  have hlt : n < 10 ^ (k + 1) :=
    (Nat.length_toDigits_le_iff (by decide) (Nat.succ_pos k)).1 hk.le
  rw [hk, Nat.cast_succ, add_sub_cancel_right, zpow_natCast, ← Nat.cast_succ, zpow_natCast]
  exact ⟨by exact_mod_cast hle, by exact_mod_cast hlt⟩

lemma pow_ten_le : (10 : ℚ) ^ (-324 : Int) ≤ 1 / 2 * 2 ^ minExponent := by
  have hle : Nat.pow 2 1075 ≤ Nat.pow 10 324 := by decide +kernel
  have hcast : (2 : ℚ) ^ (1075 : Int) ≤ 10 ^ (324 : Int) := by
    simpa only [natPow_cast, Nat.cast_ofNat] using (Nat.cast_le (α := ℚ)).2 hle
  have hleast : (1 : ℚ) / 2 * 2 ^ minExponent = (2 ^ (1075 : Int))⁻¹ := by
    rw [← zpow_neg, minExponent, show (-1075 : Int) = -1074 - 1 by norm_num,
      zpow_sub_one₀ two_ne_zero, one_div, mul_comm]
  rw [hleast, zpow_neg]
  exact inv_anti₀ (pow_two_pos 1075) hcast

lemma lt_pow_ten : (2 : ℚ) ^ 53 * 2 ^ maxExponent < 10 ^ (309 : Int) := by
  have hlt : Nat.pow 2 1024 < Nat.pow 10 309 := by decide +kernel
  have hcast : (2 : ℚ) ^ (1024 : Int) < 10 ^ (309 : Int) := by
    simpa only [natPow_cast, Nat.cast_ofNat] using (Nat.cast_lt (α := ℚ)).2 hlt
  rwa [← zpow_natCast, ← zpow_add₀ two_ne_zero, maxExponent]

/-- What is rounded to a number of the format is not far outside its range. -/
lemma Captures.range {m : Nat} {e : Int} (h : InFormat m e) (hm : 0 < m) {x : ℚ}
    (hx : Captures m e x) : (10 : ℚ) ^ (-324 : Int) ≤ x ∧ x < 10 ^ (309 : Int) := by
  have hgap := gapBelow_le m e
  have hm' : (1 : ℚ) ≤ m := by exact_mod_cast hm
  have hlt : (m : ℚ) + 1 ≤ 2 ^ 53 := by exact_mod_cast h.lt
  have hpos := pow_two_pos e
  constructor
  · calc (10 : ℚ) ^ (-324 : Int) ≤ 1 / 2 * 2 ^ minExponent := pow_ten_le
      _ ≤ 1 / 2 * 2 ^ e := by
        have := zpow_le_zpow_right₀ (one_le_two (α := ℚ)) h.least
        linarith
      _ ≤ (m - gapBelow m e) * 2 ^ e := mul_le_mul_of_nonneg_right (by linarith) hpos.le
      _ ≤ x := (le_div_iff₀ hpos).1 hx.low
  · calc x ≤ (m + 1 / 2) * 2 ^ e := (div_le_iff₀ hpos).1 hx.high
      _ ≤ 2 ^ 53 * 2 ^ e := mul_le_mul_of_nonneg_right (by linarith) hpos.le
      _ ≤ 2 ^ 53 * 2 ^ maxExponent :=
        mul_le_mul_of_nonneg_left (zpow_le_zpow_right₀ one_le_two h.greatest) (by positivity)
      _ < 10 ^ (309 : Int) := lt_pow_ten

lemma ofDecimal_eq {digits : Nat} {exponent : Int} (hdigits : 0 < digits)
    (hlow : (10 : ℚ) ^ (-324 : Int) ≤ digits * 10 ^ exponent)
    (hhigh : (digits : ℚ) * 10 ^ exponent < 10 ^ (309 : Int)) (negative : Bool) :
    ∃ num den : Nat, 0 < den ∧ (num : ℚ) / den = digits * 10 ^ exponent ∧
      ofDecimal negative digits exponent = ofRatio negative num den := by
  obtain ⟨hleast, hgreatest⟩ := digits_bounds hdigits
  have hten : (0 : ℚ) < 10 ^ exponent := zpow_pos (by norm_num) exponent
  have hone : (1 : ℚ) < 10 := by norm_num
  rw [ofDecimal, if_neg hdigits.ne']
  dsimp only
  rw [if_neg, if_neg]
  · split
    · rename_i he
      refine ⟨_, 1, Nat.one_pos, ?_, rfl⟩
      rw [Nat.cast_one, div_one, Nat.cast_mul, natPow_cast, Int.toNat_of_nonneg he, Nat.cast_ofNat]
    · rename_i he
      refine ⟨digits, Nat.pow 10 (-exponent).toNat, Nat.pow_pos (by decide), ?_, rfl⟩
      rw [natPow_cast, Int.toNat_of_nonneg (by omega), Nat.cast_ofNat, zpow_neg, div_inv_eq_mul]
  · rw [not_lt]
    have hsize : (10 : ℚ) ^ (-324 : Int)
        < 10 ^ (((Nat.toDigits 10 digits).length : Int) + exponent) := by
      rw [zpow_add₀ (by norm_num)]
      exact hlow.trans_lt (mul_lt_mul_of_pos_right hgreatest hten)
    have := (zpow_lt_zpow_iff_right₀ hone).1 hsize
    omega
  · rw [not_lt]
    have hsize : (10 : ℚ) ^ (((Nat.toDigits 10 digits).length : Int) - 1 + exponent)
        < 10 ^ (309 : Int) := by
      rw [zpow_add₀ (by norm_num)]
      exact (mul_le_mul_of_nonneg_right hleast hten.le).trans_lt hhigh
    have := (zpow_lt_zpow_iff_right₀ hone).1 hsize
    omega

/-- A number of the format is read from every decimal that is rounded to it. -/
lemma ofDecimal_of_captures {m : Nat} {e : Int} (h : InFormat m e) (hm : 0 < m) {digits : Nat}
    {exponent : Int} (hx : Captures m e (digits * 10 ^ exponent)) (negative : Bool) :
    ofDecimal negative digits exponent = .finite negative m e := by
  have hdigits : 0 < digits := by
    have hten : (0 : ℚ) < 10 ^ exponent := zpow_pos (by norm_num) exponent
    exact_mod_cast (mul_pos_iff_of_pos_right hten).1 (hx.pos hm)
  obtain ⟨hlow, hhigh⟩ := hx.range h hm
  obtain ⟨num, den, hden, hratio, heq⟩ := ofDecimal_eq hdigits hlow hhigh negative
  rw [heq]
  exact ofRatio_of_captures h hm hden (hratio ▸ hx) negative

lemma isRegular_ofDecimal (negative : Bool) (digits : Nat) (exponent : Int) :
    (ofDecimal negative digits exponent).IsRegular := by
  rw [ofDecimal]
  split
  · exact isRegular_zero negative
  dsimp only
  split
  · trivial
  split
  · exact isRegular_zero negative
  split
  · exact isRegular_ofRatio negative _ Nat.one_pos
  · exact isRegular_ofRatio negative _ (Nat.pow_pos (by decide))

end ProverLink.Binary64
