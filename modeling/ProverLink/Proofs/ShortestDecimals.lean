import Mathlib.Algebra.Order.Floor.Semifield
import Mathlib.Data.Nat.Cast.Order.Field
import ProverLink.Proofs.Rounding
import ProverLink.Number.Shortest

/-!
# Shortest decimals

The decimal that is shown for a number is one that the number captures, so reading it gives the
number back. It is found on some grid of decimals: with seventeen digits the grid is finer than the
gap between numbers, so the search ends at the latest there.
-/

namespace ProverLink

open Binary64

/-! ### The interval of a number -/

namespace Interval

/-- The three fractions of an interval are the ends and the number itself. -/
structure Spans (i : Interval) (m : Nat) (e : Int) : Prop where
  den_pos : 0 < i.den
  low : (i.low : ℚ) / i.den = (m - gapBelow m e) * 2 ^ e
  value : (i.value : ℚ) / i.den = m * 2 ^ e
  high : (i.high : ℚ) / i.den = (m + 1 / 2) * 2 ^ e
  closed : i.closed = true ↔ m % 2 = 0

/-- The gap below a number, in quarters of its unit. -/
lemma exists_quarters {m : Nat} (hm : 0 < m) (e : Int) : ∃ below : Nat,
    (if m = Nat.pow 2 52 && minExponent < e then 1 else 2) = below ∧ below ≤ 4 * m ∧
      (below : ℚ) = 4 * gapBelow m e := by
  refine ⟨_, rfl, ?_, ?_⟩
  · split <;> omega
  · rw [gapBelow]
    by_cases h : m = Nat.pow 2 52 ∧ minExponent < e
    · rw [if_pos h, if_pos (by simpa using h)]
      norm_num
    · rw [if_neg h, if_neg (by simpa using h)]
      norm_num

lemma spans_ofFinite {m : Nat} (hm : 0 < m) (e : Int) : (ofFinite m e).Spans m e := by
  have hpow : ∀ k, 0 < Nat.pow 2 k := fun k => Nat.pow_pos two_pos
  obtain ⟨below, hbelow, hle, hgap⟩ := exists_quarters hm e
  rw [ofFinite]
  dsimp only
  rw [hbelow]
  split
  · rename_i he
    have hcast : ((Nat.pow 2 e.toNat : Nat) : ℚ) = 2 ^ e := by
      rw [natPow_cast, Int.toNat_of_nonneg he, Nat.cast_ofNat]
    refine ⟨Nat.succ_pos 3, ?_, ?_, ?_, by simp⟩
    all_goals dsimp only
    · rw [Nat.cast_mul, Nat.cast_sub hle, hcast, hgap]
      push_cast
      ring
    · rw [Nat.cast_mul, hcast]
      push_cast
      ring
    · rw [Nat.cast_mul, hcast]
      push_cast
      ring
  · rename_i he
    have hcast : ((Nat.pow 2 (-e).toNat : Nat) : ℚ) = (2 ^ e)⁻¹ := by
      rw [natPow_cast, Int.toNat_of_nonneg (by omega), Nat.cast_ofNat, zpow_neg]
    have hne : (2 : ℚ) ^ e ≠ 0 := (pow_two_pos e).ne'
    refine ⟨Nat.mul_pos (by decide) (hpow _), ?_, ?_, ?_, by simp⟩
    all_goals
      dsimp only
      rw [Nat.cast_mul 4 (Nat.pow 2 _), hcast]
    · rw [Nat.cast_sub hle, hgap]
      push_cast
      field_simp
    · push_cast
      field_simp
    · push_cast
      field_simp
      ring

variable {i : Interval} {m : Nat} {e : Int} (h : i.Spans m e)

include h

/-- The test of an interval says which numbers are rounded to the number. -/
lemma Spans.contains_iff {num den : Nat} (hden : 0 < den) :
    i.contains num den = true ↔ Captures m e ((num : ℚ) / den) := by
  have hd : (0 : ℚ) < den := Nat.cast_pos.2 hden
  have hi : (0 : ℚ) < i.den := Nat.cast_pos.2 h.den_pos
  have hp := pow_two_pos e
  have hlow : i.low * den ≤ num * i.den ↔ m - gapBelow m e ≤ (num : ℚ) / den / 2 ^ e := by
    rw [le_div_iff₀ hp, ← h.low, div_le_div_iff₀ hi hd]
    exact_mod_cast Iff.rfl
  have hlow' : i.low * den < num * i.den ↔ m - gapBelow m e < (num : ℚ) / den / 2 ^ e := by
    rw [lt_div_iff₀ hp, ← h.low, div_lt_div_iff₀ hi hd]
    exact_mod_cast Iff.rfl
  have hhigh : num * i.den ≤ i.high * den ↔ (num : ℚ) / den / 2 ^ e ≤ m + 1 / 2 := by
    rw [div_le_iff₀ hp, ← h.high, div_le_div_iff₀ hd hi]
    exact_mod_cast Iff.rfl
  have hhigh' : num * i.den < i.high * den ↔ (num : ℚ) / den / 2 ^ e < m + 1 / 2 := by
    rw [div_lt_iff₀ hp, ← h.high, div_lt_div_iff₀ hd hi]
    exact_mod_cast Iff.rfl
  rw [contains]
  split
  · rename_i hclosed
    have heven := h.closed.1 hclosed
    rw [Bool.and_eq_true, decide_eq_true_eq, decide_eq_true_eq, hlow, hhigh]
    exact ⟨fun hx => ⟨hx.1, hx.2, fun hodd => by omega⟩, fun hx => ⟨hx.low, hx.high⟩⟩
  · rename_i hopen
    have hodd : m % 2 = 1 := by
      have := mt h.closed.2 hopen
      omega
    rw [Bool.and_eq_true, decide_eq_true_eq, decide_eq_true_eq, hlow', hhigh']
    exact ⟨fun hx => ⟨hx.1.le, hx.2.le, fun _ => hx⟩, fun hx => hx.odd hodd⟩

end Interval

namespace Shortest

/-! ### Grids -/

lemma pow_ten_pos (k : Int) : (0 : ℚ) < 10 ^ k := zpow_pos (by norm_num) k

lemma power_spec (k : Int) :
    0 < (power k).2 ∧ ((power k).1 : ℚ) / (power k).2 = 10 ^ k := by
  rw [power]
  split
  · rename_i hk
    refine ⟨Nat.one_pos, ?_⟩
    rw [natPow_cast, Int.toNat_of_nonneg hk, Nat.cast_ofNat, Nat.cast_one, div_one]
  · rename_i hk
    refine ⟨Nat.pow_pos (by decide), ?_⟩
    rw [natPow_cast, Int.toNat_of_nonneg (by omega), Nat.cast_one, Nat.cast_ofNat, zpow_neg,
      one_div, inv_inv]

lemma roundDiv_cases (num den : Nat) :
    roundDiv num den = num / den ∨ roundDiv num den = num / den + 1 := by
  rw [roundDiv]
  split
  · exact .inl rfl
  split
  · exact .inr rfl
  split
  · exact .inl rfl
  · exact .inr rfl

/-- The multiple of a power of ten next below the value of an interval, as a coefficient. -/
def gridBelow (i : Interval) (k : Int) : Nat := i.value * (power k).2 / (i.den * (power k).1)

section Grid

variable {i : Interval} {m : Nat} {e : Int} (h : i.Spans m e)

include h

lemma contains_grid_iff (c : Nat) (k : Int) :
    i.contains (c * (power k).1) (power k).2 = true ↔ Captures m e (c * 10 ^ k) := by
  obtain ⟨hq, hpower⟩ := power_spec k
  rw [h.contains_iff hq, Nat.cast_mul, mul_div_assoc, hpower]

/-- The point of a grid that is taken is rounded to the number. -/
lemma captures_of_onGrid? {k : Int} {c : Nat} (hc : onGrid? i k = some c) :
    Captures m e (c * 10 ^ k) := by
  rw [← contains_grid_iff h]
  rw [onGrid?] at hc
  rcases hpower : power k with ⟨p, q⟩
  rw [hpower] at hc
  dsimp only at hc ⊢
  generalize hlo : i.value * q / (i.den * p) = lo at hc
  have hround := roundDiv_cases (i.value * q) (i.den * p)
  rw [hlo] at hround
  cases hcase : i.contains (lo * p) q <;> cases hcase' : i.contains ((lo + 1) * p) q
  · simp [hcase, hcase'] at hc
  · simp only [List.filter, hcase, hcase', Option.some.injEq] at hc
    exact hc ▸ hcase'
  · simp only [List.filter, hcase, hcase', Option.some.injEq] at hc
    exact hc ▸ hcase
  · simp only [List.filter, hcase, hcase', Option.some.injEq] at hc
    rcases hround with hround | hround
    · rwa [← hc, hround]
    · rwa [← hc, hround]

/-- If a neighbour of the number on a grid is rounded to it, one is taken. -/
lemma isSome_onGrid? {k : Int} (hc : Captures m e (gridBelow i k * 10 ^ k) ∨
      Captures m e ((gridBelow i k + 1) * 10 ^ k)) : (onGrid? i k).isSome = true := by
  rw [← Nat.cast_succ, ← contains_grid_iff h, ← contains_grid_iff h, gridBelow] at hc
  rw [onGrid?]
  rcases hpower : power k with ⟨p, q⟩
  rw [hpower] at hc
  dsimp only at hc ⊢
  generalize i.value * q / (i.den * p) = lo at hc ⊢
  rcases hc with hc | hc
  · cases hcase : i.contains ((lo + 1) * p) q <;> simp [List.filter, hc, hcase]
  · cases hcase : i.contains (lo * p) q <;> simp [List.filter, hc, hcase]

lemma gridBelow_bounds (k : Int) :
    (gridBelow i k : ℚ) * 10 ^ k ≤ m * 2 ^ e ∧ (m : ℚ) * 2 ^ e < (gridBelow i k + 1) * 10 ^ k := by
  obtain ⟨hq, hpower⟩ := power_spec k
  have hten := pow_ten_pos k
  have hp : 0 < (power k).1 := by
    have hq' : (0 : ℚ) < (power k).2 := Nat.cast_pos.2 hq
    exact_mod_cast (div_pos_iff_of_pos_right hq').1 (hpower ▸ hten)
  have hratio : ((i.value * (power k).2 : Nat) : ℚ) / (i.den * (power k).1 : Nat)
      = m * 2 ^ e / 10 ^ k := by
    rw [← h.value, ← hpower]
    push_cast
    field_simp
  rw [gridBelow, ← le_div_iff₀ hten, ← div_lt_iff₀ hten, ← hratio]
  rw [← Nat.floor_div_eq_div (K := ℚ)]
  exact ⟨Nat.floor_le (by positivity), Nat.lt_floor_add_one _⟩

/-- Seventeen digits are enough: on that grid a neighbour is rounded to the number. -/
lemma isSome_onGrid?_seventeen (hformat : InFormat m e) {top : Int}
    (htop : (10 : ℚ) ^ top ≤ m * 2 ^ e) : (onGrid? i (top - 16)).isSome = true := by
  obtain ⟨hbelow, habove⟩ := gridBelow_bounds h (top - 16)
  refine isSome_onGrid? h ?_
  have hp := pow_two_pos e
  have hstep : (10 : ℚ) ^ (top - 16) * 10 ^ 16 ≤ m * 2 ^ e := by
    rwa [← zpow_natCast, ← zpow_add₀ (by norm_num),
      show top - 16 + ((16 : Nat) : Int) = top by norm_num]
  have hlt : (m : ℚ) + 1 ≤ 2 ^ 53 := by exact_mod_cast hformat.lt
  have hcaptures : ∀ {x : ℚ}, (m - gapBelow m e) * 2 ^ e < x → x < (m + 1 / 2) * 2 ^ e →
      Captures m e x :=
    fun hx hx' =>
      have hlow := (lt_div_iff₀ hp).2 hx
      have hhigh := (div_lt_iff₀ hp).2 hx'
      ⟨hlow.le, hhigh.le, fun _ => ⟨hlow, hhigh⟩⟩
  generalize (10 : ℚ) ^ (top - 16) = step at *
  generalize (2 : ℚ) ^ e = p at *
  generalize (gridBelow i (top - 16) : ℚ) = lo at *
  by_cases hgap : m = Nat.pow 2 52 ∧ minExponent < e
  · -- above a power of two there is room for a whole step
    have hm : (m : ℚ) * p = 2 ^ 52 * p := by
      rw [hgap.1]
      norm_num
    rw [gapBelow, if_pos hgap] at hcaptures
    exact .inr (hcaptures (by linarith) (by linarith))
  · -- elsewhere the nearer one of the two is at most half a step away
    rw [gapBelow, if_neg hgap] at hcaptures
    have hm : (m : ℚ) * p ≤ 2 ^ 53 * p := mul_le_mul_of_nonneg_right (by linarith) hp.le
    rcases le_total (2 * (m * p - lo * step)) step with hnear | hfar
    · exact .inl (hcaptures (by linarith) (by linarith))
    · exact .inr (hcaptures (by linarith) (by linarith))

end Grid

/-! ### The search -/

/-- The search ends on a grid where it finds something, if there is one in its reach. -/
lemma onGrid?_search {i : Interval} {top : Int} {fuel count : Nat} {j : Nat} (hj : j < fuel)
    (hsome : (onGrid? i (top - ((count + j : Nat) - 1))).isSome = true) :
    onGrid? i (search i top fuel count).2 = some (search i top fuel count).1 := by
  induction fuel generalizing count j with
  | zero => cases hj
  | succ fuel ih =>
    rw [search]
    split
    · assumption
    · rename_i hnone
      cases j with
      | zero =>
        rw [Nat.add_zero, hnone] at hsome
        cases hsome
      | succ j =>
        refine @ih (count + 1) _ (Nat.lt_of_succ_lt_succ hj) ?_
        rwa [Nat.succ_add_eq_add_succ]

lemma leadingZeros_spec {num den fuel j n : Nat} (h : den ≤ num * Nat.pow 10 n)
    (hn : n ≤ j + fuel) : den ≤ num * Nat.pow 10 (leadingZeros num den fuel j) := by
  induction fuel generalizing j with
  | zero => exact h.trans (Nat.mul_le_mul_left _ (Nat.pow_le_pow_right (by decide) hn))
  | succ fuel ih =>
    rw [leadingZeros]
    split
    · assumption
    · exact ih (by omega)

/-- The first digit of a quotient is not above it. -/
lemma pow_magnitude_le {num den : Nat} (hden : 0 < den)
    (h : (10 : ℚ) ^ (-324 : Int) ≤ (num : ℚ) / den) :
    (10 : ℚ) ^ magnitude num den ≤ (num : ℚ) / den := by
  have hd : (0 : ℚ) < den := Nat.cast_pos.2 hden
  -- how a power of ten below the quotient is tested
  have htest : ∀ j : Nat, (10 : ℚ) ^ (-(j : Int)) ≤ (num : ℚ) / den ↔ den ≤ num * Nat.pow 10 j := by
    intro j
    rw [zpow_neg, inv_le_iff_one_le_mul₀ (pow_ten_pos j), ← mul_div_right_comm, one_le_div hd,
      ← Nat.cast_le (α := ℚ), Nat.cast_mul, natPow_cast, Nat.cast_ofNat]
  rw [magnitude]
  split
  · rename_i hle
    have hquot : 0 < num / den := Nat.div_pos hle hden
    exact (digits_bounds hquot).1.trans Nat.cast_div_le
  · exact (htest _).2 (leadingZeros_spec ((htest 324).1 h) (by decide))

/-- Dropping zeros does not change the number. -/
lemma normalize_spec (fuel c : Nat) (k : Int) :
    ((normalize fuel (c, k)).1 : ℚ) * 10 ^ (normalize fuel (c, k)).2 = c * 10 ^ k := by
  induction fuel generalizing c k with
  | zero => rfl
  | succ fuel ih =>
    rw [normalize]
    split
    · rename_i hmod
      rw [ih, zpow_add_one₀ (by norm_num), ← mul_assoc, mul_right_comm]
      congr 1
      exact_mod_cast Nat.div_mul_cancel (Nat.dvd_of_mod_eq_zero hmod)
    · rfl

/-- The shortest decimal of a number of the format is rounded to the number. -/
lemma captures_decimal {m : Nat} {e : Int} (h : InFormat m e) (hm : 0 < m) :
    Captures m e ((decimal m e).1 * 10 ^ (decimal m e).2) := by
  have hi := Interval.spans_ofFinite hm e
  have hleast : (10 : ℚ) ^ (-324 : Int)
      ≤ (Interval.ofFinite m e).value / (Interval.ofFinite m e).den := by
    rw [hi.value]
    exact ((captures_self m e).range h hm).1
  have htop := pow_magnitude_le hi.den_pos hleast
  rw [hi.value] at htop
  have hfound := @onGrid?_search _ _ 17 1 16 (by decide) (isSome_onGrid?_seventeen hi h htop)
  rw [decimal, ← Prod.mk.eta (p := search _ _ _ _), normalize_spec]
  exact captures_of_onGrid? hi hfound

end Shortest

end ProverLink
