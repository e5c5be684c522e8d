import ProverLink.Proofs.Numbers
import ProverLink.Proofs.ShortestDecimals

/-!
# Floating point numbers that are written and read again

The shortest decimal of a number is written with or without an exponent. Either way `numeral?` finds
all its digits again, so the number that is read is the one that was written. Words are written for
what is not finite.
-/

namespace ProverLink

namespace Binary64

/-! ### Numerals -/

section Numeral

variable {w f tail : List Char} {k : Int} (hw : ∀ c ∈ w, Digit.isAscii c = true) (hne : w ≠ [])
  (htail : ∀ c ∈ tail.head?, Digit.isAscii c = false ∧ c ≠ '.') (hk : exponent? tail = some k)

include hw hne htail hk

lemma numeral?_whole :
    numeral? (w ++ tail) = some { whole := w.map fun c => c.toNat - 48, exponent := k } := by
  rw [numeral?, spanDigits_append hw fun c hc => (htail c hc).1]
  cases tail with
  | nil => simp [hk, hne]
  | cons c rest =>
    have hc := (htail c rfl).2
    simp [hk, hne, hc]

lemma numeral?_point (hf : ∀ c ∈ f, Digit.isAscii c = true) :
    numeral? (w ++ '.' :: (f ++ tail)) = some
      { whole := w.map fun c => c.toNat - 48, fraction := f.map fun c => c.toNat - 48,
        exponent := k } := by
  have hpoint : ∀ c ∈ ('.' :: (f ++ tail)).head?, Digit.isAscii c = false := by
    rintro c ⟨⟩
    rfl
  rw [numeral?, spanDigits_append hw hpoint]
  simp [spanDigits_append hf fun c hc => (htail c hc).1, hk, hne]

end Numeral

lemma numeral?_fixed {w f : List Char} (hw : ∀ c ∈ w, Digit.isAscii c = true) (hne : w ≠ [])
    (hf : ∀ c ∈ f, Digit.isAscii c = true) :
    numeral? (w ++ '.' :: f) = some
      { whole := w.map fun c => c.toNat - 48, fraction := f.map fun c => c.toNat - 48 } := by
  have h : numeral? (w ++ '.' :: (f ++ [])) = _ := numeral?_point hw hne (by simp) rfl hf
  rwa [List.append_nil] at h

/-- An exponent with a sign. -/
lemma exponent?_signed (negative : Bool) {ds : List Char} (hds : ∀ c ∈ ds, Digit.isAscii c = true)
    (hne : ds ≠ []) :
    exponent? ('e' :: (if negative then '-' else '+') :: ds)
      = some (Decimal.signed negative (Nat.ofDigitChars 10 ds 0)) := by
  have hspan : spanDigits (ds ++ []) = _ := spanDigits_append hds (by simp)
  rw [List.append_nil] at hspan
  rw [← Decimal.ofDigits_map]
  cases ds with
  | nil => exact absurd rfl hne
  | cons d rest =>
    rw [List.map_cons] at hspan ⊢
    rw [exponent?.eq_def]
    cases negative with
    | false => simp [hspan]
    | true => simp [hspan]

/-- A numeral stands for a coefficient times a power of ten. -/
def Numeral.StandsFor (n : Numeral) (c : Nat) (x : Int) : Prop :=
  ((Decimal.ofDigits (n.whole ++ n.fraction) : Nat) : ℚ) * 10 ^ (n.exponent - n.fraction.length)
    = c * 10 ^ x

/-- Digits in front of a point and behind it stand for all of them, with the point moved. -/
lemma Numeral.standsFor_of_digits {w f : List Char} {k x : Int} {c z : Nat}
    (hvalue : Nat.ofDigitChars 10 (w ++ f) 0 = c * 10 ^ z) (hx : k - f.length + z = x) :
    Numeral.StandsFor
      { whole := w.map fun c => c.toNat - 48, fraction := f.map fun c => c.toNat - 48,
        exponent := k } c x := by
  rw [Numeral.StandsFor, ← List.map_append, Decimal.ofDigits_map, hvalue, List.length_map, ← hx,
    zpow_add₀ (by norm_num)]
  push_cast
  rw [zpow_natCast]
  ring

end Binary64

namespace Layout

open Binary64 Decimal

/-! ### Decimals as they are written -/

lemma ofDigitChars_natChars (n : Nat) : Nat.ofDigitChars 10 (natChars n) 0 = n :=
  Nat.ofDigitChars_ten_toDigits

lemma isAscii_of_mem_zeros {n : Nat} {c : Char} (h : c ∈ List.replicate n '0') :
    Digit.isAscii c = true := by
  rw [List.eq_of_mem_replicate h]
  rfl

/-- Without an exponent, a decimal is read with all its digits. -/
lemma exists_numeral?_positional (c : Nat) (top : Int) :
    ∃ n, numeral? (positional (natChars c) top) = some n ∧
      n.StandsFor c (top + 1 - (natChars c).length) := by
  have hdigits : ∀ d ∈ natChars c, Digit.isAscii d = true := fun _ => isAscii_of_mem_natChars
  rw [positional]
  split
  · -- zeros in front of the first digit
    have hf : ∀ d ∈ List.replicate (-top - 1).toNat '0' ++ natChars c, Digit.isAscii d = true :=
      List.forall_mem_append.2 ⟨fun _ => isAscii_of_mem_zeros, hdigits⟩
    have hzero : ∀ d ∈ ['0'], Digit.isAscii d = true := by
      rintro d (_ | ⟨_, ⟨⟩⟩)
      rfl
    have hread := numeral?_fixed hzero (by simp) hf
    refine ⟨_, hread, Numeral.standsFor_of_digits (z := 0) ?_ ?_⟩
    · rw [List.singleton_append, Nat.ofDigitChars_cons, Nat.ofDigitChars_append,
        Nat.ofDigitChars_replicate_zero]
      simp [ofDigitChars_natChars]
    · simp only [List.length_append, List.length_replicate]
      omega
  · rename_i htop
    dsimp only
    split
    · -- all digits in front of the point, filled up with zeros
      rename_i hempty
      rw [List.isEmpty_iff, List.drop_eq_nil_iff, List.length_append,
        List.length_replicate] at hempty
      have htake :
          (natChars c ++ List.replicate (top.toNat + 1 - (natChars c).length) '0').take
            (top.toNat + 1)
          = natChars c ++ List.replicate (top.toNat + 1 - (natChars c).length) '0' :=
        List.take_of_length_le (by rwa [List.length_append, List.length_replicate])
      rw [htake]
      refine ⟨_, numeral?_fixed (List.forall_mem_append.2 ⟨hdigits, fun _ => isAscii_of_mem_zeros⟩)
        (by simp [natChars_ne_nil]) (f := ['0']) (by simp; rfl),
        Numeral.standsFor_of_digits (z := top.toNat + 1 - (natChars c).length + 1) ?_ ?_⟩
      · rw [List.append_assoc, Nat.ofDigitChars_append, ← List.replicate_succ',
          Nat.ofDigitChars_replicate_zero, ofDigitChars_natChars, Nat.mul_comm]
      · simp only [List.length_singleton]
        omega
    · -- the point between two digits
      rename_i hrest
      rw [List.isEmpty_iff, List.drop_eq_nil_iff, List.length_append,
        List.length_replicate] at hrest
      rw [show top.toNat + 1 - (natChars c).length = 0 by omega, List.replicate_zero,
        List.append_nil]
      refine ⟨_, numeral?_fixed (fun d hd => hdigits d (List.mem_of_mem_take hd)) ?_
        (fun d hd => hdigits d (List.mem_of_mem_drop hd)),
        Numeral.standsFor_of_digits (z := 0) ?_ ?_⟩
      · simp [natChars_ne_nil]
      · rw [List.take_append_drop, ofDigitChars_natChars, pow_zero, mul_one]
      · rw [List.length_drop]
        omega

/-- An exponent is read as it was written, zeros in front of it included. -/
lemma exponent?_exponentChars (l : Layout) (top : Int) :
    exponent? ('e' :: (if top < 0 then '-' else '+') :: l.exponentChars top.natAbs)
      = some top := by
  have hdigits : ∀ d ∈ l.exponentChars top.natAbs, Digit.isAscii d = true :=
    List.forall_mem_append.2 ⟨fun _ => isAscii_of_mem_zeros, fun _ => isAscii_of_mem_natChars⟩
  have hne : l.exponentChars top.natAbs ≠ [] := by
    simp [exponentChars, natChars_ne_nil]
  have hvalue : Nat.ofDigitChars 10 (l.exponentChars top.natAbs) 0 = top.natAbs := by
    rw [exponentChars, Nat.ofDigitChars_append, Nat.ofDigitChars_replicate_zero, Nat.mul_zero,
      ofDigitChars_natChars]
  have hsigned := exponent?_signed (top < 0) hdigits hne
  simp only [decide_eq_true_eq, hvalue] at hsigned
  rw [hsigned, Decimal.signed, Option.some.injEq]
  split
  · rename_i hneg
    rw [decide_eq_true_eq] at hneg
    omega
  · rename_i hneg
    rw [decide_eq_true_eq] at hneg
    omega

/-- With an exponent, a decimal is read with all its digits. -/
lemma exists_numeral?_scientific (l : Layout) (c : Nat) (top : Int) :
    ∃ n, numeral? (l.scientific (natChars c) top) = some n ∧
      n.StandsFor c (top + 1 - (natChars c).length) := by
  have hdigits : ∀ d ∈ natChars c, Digit.isAscii d = true := fun _ => isAscii_of_mem_natChars
  have hexponent := exponent?_exponentChars l top
  have htail : ∀ d ∈ ('e' :: (if top < 0 then '-' else '+') :: l.exponentChars top.natAbs).head?,
      Digit.isAscii d = false ∧ d ≠ '.' := by
    rintro d ⟨⟩
    exact ⟨rfl, by decide⟩
  have hvalue := ofDigitChars_natChars c
  rw [scientific.eq_def]
  dsimp only
  rcases hds : natChars c with - | ⟨d, - | ⟨d', rest⟩⟩
  · exact absurd hds (natChars_ne_nil c)
  · rw [hds] at hvalue hdigits
    refine ⟨_, numeral?_whole hdigits (by simp) htail hexponent,
      Numeral.standsFor_of_digits (f := []) (z := 0) ?_ ?_⟩
    · simpa using hvalue
    · simp
  · rw [hds] at hvalue hdigits
    rw [List.forall_mem_cons] at hdigits
    refine ⟨_, numeral?_point (w := [d]) (by simpa using hdigits.1) (by simp) htail hexponent
      hdigits.2,
      Numeral.standsFor_of_digits (z := 0) ?_ ?_⟩
    · simpa using hvalue
    · simp

end Layout

/-! ### Reading what is written -/

namespace Binary64

/-- A character of a number in ASCII, other than a low line. -/
def IsPlain (c : Char) : Prop := 0x20 < c.toNat ∧ c.toNat < 0x7F ∧ c ≠ '_'

instance (c : Char) : Decidable (IsPlain c) := inferInstanceAs (Decidable (_ ∧ _ ∧ _))

lemma dropLowLines_of_notMem {cs : List Char} (h : '_' ∉ cs) : dropLowLines cs = some cs := by
  induction cs with
  | nil => rfl
  | cons c rest ih =>
    rw [List.mem_cons, not_or] at h
    rw [dropLowLines.eq_4 c rest (fun hc => h.1 hc.symm), ih h.2]
    · rfl
    · rintro d rest' rfl
      simp at h

lemma numberChar?_ofChar {c : Char} (h : c.toNat < 0x7F) : numberChar? (.ofChar c) = some c := by
  rw [numberChar?, CodePoint.val_ofChar, if_pos h, Char.ofNat_toNat]

lemma mapM_numberChar? {cs : List Char} (h : ∀ c ∈ cs, c.toNat < 0x7F) :
    (Text.ofChars cs).mapM numberChar? = some cs := by
  induction cs with
  | nil => rfl
  | cons c rest ih =>
    rw [List.forall_mem_cons] at h
    rw [Text.ofChars] at ih ⊢
    rw [List.map_cons, List.mapM_cons, ih h.2, numberChar?_ofChar h.1]
    rfl

lemma toLower_of_isAscii {c : Char} (hc : Digit.isAscii c = true) : c.toLower = c := by
  have hrange := Digit.isAscii_iff.1 hc
  refine dif_neg ?_
  rintro ⟨hlow, -⟩
  have hlow' : 65 ≤ c.toNat := hlow
  omega

/-- What starts with another letter is no word. -/
lemma unsigned?_of_toLower_ne {c : Char} (hi : c.toLower ≠ 'i') (hn : c.toLower ≠ 'n')
    (rest : List Char) (negative : Bool) :
    unsigned? negative (c :: rest) = (numeral? (c :: rest)).map (Numeral.value negative) := by
  have hne : ∀ (word : String) (d : Char), word.toList.head? = some d → c.toLower ≠ d →
      String.ofList ((c :: rest).map Char.toLower) ≠ word := by
    rintro _ d hhead hd rfl
    rw [String.toList_ofList, List.map_cons, List.head?_cons, Option.some.injEq] at hhead
    exact hd hhead
  rw [unsigned?, if_neg, if_neg (hne "nan" 'n' (by decide) hn)]
  rw [Bool.or_eq_true, decide_eq_true_eq, decide_eq_true_eq]
  exact not_or.2 ⟨hne "inf" 'i' (by decide) hi, hne "infinity" 'i' (by decide) hi⟩

lemma unsigned?_of_isAscii {c : Char} (hc : Digit.isAscii c = true) (rest : List Char)
    (negative : Bool) :
    unsigned? negative (c :: rest) = (numeral? (c :: rest)).map (Numeral.value negative) := by
  have hne : ∀ d, Digit.isAscii d = false → c.toLower ≠ d := fun d hd => by
    rw [toLower_of_isAscii hc]
    exact (Digit.ne_of_isAscii hc hd).symm
  exact unsigned?_of_toLower_ne (hne 'i' rfl) (hne 'n' rfl) rest negative

section Plain

variable {cs : List Char} (hcs : ∀ c ∈ cs, IsPlain c)

include hcs

lemma read?_minus : read? (Text.ofChars ('-' :: cs)) = unsigned? true cs := by
  have hmap := @mapM_numberChar? ('-' :: cs)
    (List.forall_mem_cons.2 ⟨by decide, fun c hc => (hcs c hc).2.1⟩)
  have hlines := @dropLowLines_of_notMem ('-' :: cs) (by simpa using fun h => (hcs _ h).2.2 rfl)
  rw [read?, hmap]
  simp [hlines]

/-- No sign stands in front of a digit. -/
lemma read?_of_isAscii (hstarts : ∃ d rest, cs = d :: rest ∧ Digit.isAscii d = true) :
    read? (Text.ofChars cs) = unsigned? false cs := by
  obtain ⟨d, rest, rfl, hd⟩ := hstarts
  have hlines := @dropLowLines_of_notMem (d :: rest) fun h => (hcs _ h).2.2 rfl
  rw [read?, mapM_numberChar? fun c hc => (hcs c hc).2.1]
  simp only [Option.bind_eq_bind, Option.bind_some, hlines]
  split
  · rename_i heq
    exact absurd (List.cons.inj heq).1.symm (Digit.ne_of_isAscii hd rfl)
  · rename_i heq
    exact absurd (List.cons.inj heq).1.symm (Digit.ne_of_isAscii hd rfl)
  · rfl

end Plain

lemma isPlain_of_isAscii {c : Char} (hc : Digit.isAscii c = true) : IsPlain c := by
  have hrange := Digit.isAscii_iff.1 hc
  refine ⟨by omega, by omega, ?_⟩
  rintro rfl
  cases hc

lemma isPlain_point : IsPlain '.' := by decide

lemma isPlain_of_mem_natChars {n : Nat} {c : Char} (hc : c ∈ Decimal.natChars n) : IsPlain c :=
  isPlain_of_isAscii (Decimal.isAscii_of_mem_natChars hc)

end Binary64

namespace Layout

open Binary64 Decimal

lemma isPlain_of_mem_positional {ds : List Char} (hds : ∀ d ∈ ds, Digit.isAscii d = true)
    (top : Int) :
    ∀ c ∈ positional ds top, IsPlain c := by
  have hzeros : ∀ n, ∀ c ∈ List.replicate n '0', IsPlain c := fun n c hc =>
    isPlain_of_isAscii (isAscii_of_mem_zeros hc)
  have hplain : ∀ c ∈ ds, IsPlain c := fun c hc => isPlain_of_isAscii (hds c hc)
  rw [positional]
  split
  · refine List.forall_mem_append.2 ⟨?_, hplain⟩
    exact List.forall_mem_cons.2
      ⟨isPlain_of_isAscii rfl, List.forall_mem_cons.2 ⟨isPlain_point, hzeros _⟩⟩
  · have hpadded : ∀ n, ∀ c ∈ ds ++ List.replicate n '0', IsPlain c := fun n =>
      List.forall_mem_append.2 ⟨hplain, hzeros n⟩
    refine List.forall_mem_append.2 ⟨fun c hc => hpadded _ c (List.mem_of_mem_take hc), ?_⟩
    refine List.forall_mem_cons.2 ⟨isPlain_point, ?_⟩
    split
    · exact hzeros 1
    · exact fun c hc => hpadded _ c (List.mem_of_mem_drop hc)

lemma isPlain_of_mem_scientific (l : Layout) {ds : List Char}
    (hds : ∀ d ∈ ds, Digit.isAscii d = true) (top : Int) :
    ∀ c ∈ l.scientific ds top, IsPlain c := by
  have hplain : ∀ c ∈ ds, IsPlain c := fun c hc => isPlain_of_isAscii (hds c hc)
  have htail :
      ∀ c ∈ 'e' :: (if top < 0 then '-' else '+') :: l.exponentChars top.natAbs, IsPlain c := by
    have hsign : IsPlain (if top < 0 then '-' else '+') := by
      split
      · decide
      · decide
    refine List.forall_mem_cons.2 ⟨by decide, List.forall_mem_cons.2 ⟨hsign, ?_⟩⟩
    refine List.forall_mem_append.2 ⟨?_, fun _ => isPlain_of_mem_natChars⟩
    exact fun c hc => isPlain_of_isAscii (isAscii_of_mem_zeros hc)
  rw [scientific.eq_def]
  dsimp only
  split
  · exact htail
  · exact List.forall_mem_cons.2 ⟨hplain _ List.mem_cons_self, htail⟩
  · rw [List.forall_mem_cons] at hplain
    exact List.forall_mem_cons.2 ⟨hplain.1,
      List.forall_mem_cons.2 ⟨isPlain_point, List.forall_mem_append.2 ⟨hplain.2, htail⟩⟩⟩

lemma starts_positional {d : Char} (hd : Digit.isAscii d = true) (ds : List Char) (top : Int) :
    ∃ d' rest, positional (d :: ds) top = d' :: rest ∧ Digit.isAscii d' = true := by
  rw [positional]
  split
  · exact ⟨'0', _, rfl, rfl⟩
  · exact ⟨d, _, rfl, hd⟩

lemma starts_scientific (l : Layout) {d : Char} (hd : Digit.isAscii d = true) (ds : List Char)
    (top : Int) : ∃ d' rest, l.scientific (d :: ds) top = d' :: rest ∧ Digit.isAscii d' = true := by
  rw [scientific.eq_def]
  cases ds with
  | nil => exact ⟨d, _, rfl, hd⟩
  | cons d' rest => exact ⟨d, _, rfl, hd⟩

/-- Characters that are read as a magnitude, whatever sign stands in front of them. -/
structure Rereads (cs : List Char) (m : Nat) (e : Int) : Prop where
  plain : ∀ c ∈ cs, IsPlain c
  starts : ∃ d rest, cs = d :: rest ∧ Digit.isAscii d = true
  value : ∀ negative, (numeral? cs).map (Numeral.value negative) = some (.finite negative m e)

variable {m : Nat} {e : Int}

/-- Characters that stand for a decimal are read as the number that captures it. -/
lemma rereads_of_captures {cs : List Char} {c : Nat} {x : Int} (h : InFormat m e) (hm : 0 < m)
    (hcaptures : Captures m e (c * 10 ^ x)) (hplain : ∀ c ∈ cs, IsPlain c)
    (hstarts : ∃ d rest, cs = d :: rest ∧ Digit.isAscii d = true)
    (hread : ∃ n, numeral? cs = some n ∧ n.StandsFor c x) : Rereads cs m e := by
  refine ⟨hplain, hstarts, fun negative => ?_⟩
  obtain ⟨n, hn, hstands⟩ := hread
  rw [hn, Option.map_some, Numeral.value, ofDecimal_of_captures h hm]
  rwa [hstands]

lemma rereads_magnitudeChars (l : Layout) (h : InFormat m e) :
    Rereads (l.magnitudeChars m e) m e := by
  rw [magnitudeChars]
  split
  · rename_i hm
    subst hm
    have he : e = minExponent := h.normal.resolve_left (by decide)
    subst he
    refine ⟨?_, ⟨'0', _, rfl, rfl⟩, fun negative => rfl⟩
    rintro c (_ | ⟨_, _ | ⟨_, _ | ⟨_, ⟨⟩⟩⟩⟩)
    · exact isPlain_of_isAscii rfl
    · exact isPlain_point
    · exact isPlain_of_isAscii rfl
  · rename_i hm
    have hcaptures := Shortest.captures_decimal h (Nat.pos_of_ne_zero hm)
    generalize Shortest.decimal m e = p at hcaptures ⊢
    obtain ⟨c, x⟩ := p
    have hdigits : ∀ d ∈ natChars c, Digit.isAscii d = true := fun _ => isAscii_of_mem_natChars
    obtain ⟨d, ds, hds, hd⟩ := exists_natChars_cons c
    -- the first digit stands for a power of ten that says where the last one is
    have htop : x + (natChars c).length - 1 + 1 - (natChars c).length = x := by omega
    dsimp only at hcaptures ⊢
    refine rereads_of_captures h (Nat.pos_of_ne_zero hm) hcaptures ?_ ?_ ?_
    all_goals split
    · exact isPlain_of_mem_positional hdigits _
    · exact isPlain_of_mem_scientific l hdigits _
    · rw [hds]
      exact starts_positional hd ..
    · rw [hds]
      exact starts_scientific l hd ..
    · have hread := exists_numeral?_positional c (x + (natChars c).length - 1)
      rwa [htop] at hread
    · have hread := exists_numeral?_scientific l c (x + (natChars c).length - 1)
      rwa [htop] at hread

/-- Every layout writes finite numbers in a way in which they are read again. -/
lemma read?_chars_finite (l : Layout) (h : InFormat m e) (negative : Bool) :
    Binary64.read? (Text.ofChars (l.chars (.finite negative m e)))
      = some (.finite negative m e) := by
  obtain ⟨hplain, hstarts, hvalue⟩ := rereads_magnitudeChars l h
  have hunsigned : unsigned? negative (l.magnitudeChars m e) = some (.finite negative m e) := by
    obtain ⟨d, rest, hcs, hd⟩ := hstarts
    rw [← hvalue negative, hcs, unsigned?_of_isAscii hd]
  cases negative with
  | false => exact (read?_of_isAscii hplain hstarts).trans hunsigned
  | true => exact (read?_minus hplain).trans hunsigned

lemma read?_chars_display {x : Binary64} (hx : x.IsRegular) :
    Binary64.read? (Text.ofChars (display.chars x)) = some x := by
  cases x with
  | nan => decide +kernel
  | infinity negative =>
    cases negative with
    | false => decide +kernel
    | true => decide +kernel
  | finite negative m e => exact read?_chars_finite display hx negative

lemma isPlain_of_mem_display {x : Binary64} (hx : x.IsRegular) :
    ∀ c ∈ display.chars x, IsPlain c := by
  have hwords : (["nan", "inf", "-inf"].all fun w => w.toList.all fun c => IsPlain c) = true := by
    decide +kernel
  have hword : ∀ w ∈ ["nan", "inf", "-inf"], ∀ c ∈ w.toList, IsPlain c := fun w hw c hc =>
    of_decide_eq_true (List.all_eq_true.1 (List.all_eq_true.1 hwords w hw) c hc)
  cases x with
  | nan => exact hword "nan" (by simp)
  | infinity negative =>
    cases negative with
    | false => exact hword "inf" (by simp)
    | true => exact hword "-inf" (by simp)
  | finite negative m e =>
    have hplain := (rereads_magnitudeChars display hx).plain
    cases negative with
    | false => exact hplain
    | true => exact List.forall_mem_cons.2 ⟨by decide, hplain⟩

end Layout

/-! ### Integers -/

namespace Decimal

open Binary64

lemma isPlain_of_mem_intChars (i : Int) : ∀ c ∈ intChars i, IsPlain c := by
  cases i with
  | ofNat n => exact fun _ => isPlain_of_mem_natChars
  | negSucc n => exact List.forall_mem_cons.2 ⟨by decide, fun _ => isPlain_of_mem_natChars⟩

/-- An integer in decimal is read as the number nearest to it. -/
lemma read?_intChars (i : Int) : Binary64.read? (Text.ofChars (intChars i)) = some (.ofInt i) := by
  have hplain : ∀ n, ∀ c ∈ natChars n, IsPlain c := fun _ _ => isPlain_of_mem_natChars
  have hvalue : ∀ negative n,
      unsigned? negative (natChars n) = some (ofDecimal negative n 0) := by
    intro negative n
    have hread : numeral? (natChars n ++ []) = _ :=
      numeral?_whole (fun _ => isAscii_of_mem_natChars) (natChars_ne_nil n) (by simp) rfl
    rw [List.append_nil] at hread
    obtain ⟨d, rest, hds, hd⟩ := exists_natChars_cons n
    rw [hds, unsigned?_of_isAscii hd, ← hds, hread]
    simp [Numeral.value, ofDigits_natChars]
  cases i with
  | ofNat n => exact (read?_of_isAscii (hplain n) (exists_natChars_cons n)).trans (hvalue false n)
  | negSucc n =>
    rw [ofInt, decide_eq_true (Int.negSucc_lt_zero n), Int.natAbs_negSucc]
    exact (read?_minus (hplain (n + 1))).trans (hvalue true (n + 1))

end Decimal

end ProverLink
