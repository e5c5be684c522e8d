import Mathlib.Tactic.Common
import ProverLink.Text.Utf8

/-!
# Characters that are encoded and decoded again

The bytes of a character are read as that character and nothing behind them is touched, so strict
decoding gives back what was encoded. It accepts nothing else: bytes that are read as a character
are the bytes of that character.
-/

namespace ProverLink.Utf8

/-- A byte that does not end the character. -/
lemma complete_cons {s : Start} {b : UInt8} (hb : s.accepts b = true) (hs : 1 < s.missing)
    (rest : List UInt8) : complete s (b :: rest) = complete (s.push b) rest := by
  rw [complete, if_pos hb, if_neg (Nat.not_le.2 hs)]

lemma complete_last {s : Start} {b : UInt8} (hb : s.accepts b = true) (hs : s.missing ≤ 1)
    (rest : List UInt8) : complete s (b :: rest) = (some (Char.ofNat (s.pushBits b)), rest) := by
  rw [complete, if_pos hb, if_pos hs]

lemma toNat_ofNat_of_lt {n : Nat} (h : n < 256) : (UInt8.ofNat n).toNat = n := by
  rw [UInt8.toNat_ofNat']
  exact Nat.mod_eq_of_lt h

lemma accepts_ofNat {s : Start} {n : Nat} (hn : n < 256) (hlow : s.least ≤ n)
    (hhigh : n ≤ s.greatest) :
    s.accepts (.ofNat n) = true := by
  simp [Start.accepts, toNat_ofNat_of_lt hn, hlow, hhigh]

lemma pushBits_ofNat (s : Start) {n : Nat} (hn : n < 64) :
    s.pushBits (.ofNat (n + 128)) = s.bits * 64 + n := by
  have hbyte := toNat_ofNat_of_lt (n := n + 128) (by omega)
  unfold Start.pushBits
  omega

/-! ### The first byte -/

variable {v : Nat}

lemma start_bits {n least greatest a b : Nat} (h : a = b) :
    Lead.start ⟨n, least, greatest, a⟩ = .start ⟨n, least, greatest, b⟩ := by rw [h]

lemma lead_two (hlow : 0x7f < v) (hhigh : v ≤ 0x7ff) :
    lead (.ofNat (v / 64 % 32 + 192)) = .start ⟨1, 0x80, 0xBF, v / 64⟩ := by
  simp only [lead, toNat_ofNat_of_lt (show v / 64 % 32 + 192 < 256 by omega)]
  rw [if_neg (by omega), if_neg (by omega), if_pos (by omega)]
  exact start_bits (by omega)

/-- The narrower ranges leave room for every character of three bytes. -/
lemma lead_three (hlow : 0x7ff < v) (hhigh : v ≤ 0xffff) (hv : v < 0xd800 ∨ 0xdfff < v) :
    ∃ least greatest, lead (.ofNat (v / 4096 % 16 + 224)) = .start ⟨2, least, greatest, v / 4096⟩ ∧
      least ≤ v / 64 % 64 + 128 ∧ v / 64 % 64 + 128 ≤ greatest := by
  simp only [lead, toNat_ofNat_of_lt (show v / 4096 % 16 + 224 < 256 by omega)]
  rw [if_neg (by omega), if_neg (by omega), if_neg (by omega)]
  split
  · exact ⟨0xA0, 0xBF, start_bits (by omega), by omega, by omega⟩
  · split
    · exact ⟨0x80, 0x9F, start_bits (by omega), by omega, by omega⟩
    · rw [if_pos (by omega)]
      exact ⟨0x80, 0xBF, start_bits (by omega), by omega, by omega⟩

lemma lead_four (hlow : 0xffff < v) (hhigh : v < 0x110000) :
    ∃ least greatest,
      lead (.ofNat (v / 262144 % 8 + 240)) = .start ⟨3, least, greatest, v / 262144⟩ ∧
      least ≤ v / 4096 % 64 + 128 ∧ v / 4096 % 64 + 128 ≤ greatest := by
  simp only [lead, toNat_ofNat_of_lt (show v / 262144 % 8 + 240 < 256 by omega)]
  rw [if_neg (by omega), if_neg (by omega), if_neg (by omega), if_neg (by omega), if_neg (by omega),
    if_neg (by omega)]
  split
  · exact ⟨0x90, 0xBF, start_bits (by omega), by omega, by omega⟩
  · split
    · exact ⟨0x80, 0xBF, start_bits (by omega), by omega, by omega⟩
    · rw [if_pos (by omega)]
      exact ⟨0x80, 0x8F, start_bits (by omega), by omega, by omega⟩

/-! ### One character -/

/-- The first byte of a character is the character, or starts it, and the others complete it. -/
lemma exists_lead_utf8EncodeChar (c : Char) :
    ∃ b tail, String.utf8EncodeChar c = b :: tail ∧
      ((lead b = .char c ∧ tail = []) ∨
        ∃ s, lead b = .start s ∧ ∀ rest, complete s (tail ++ rest) = (some c, rest)) := by
  have hvalid : c.val.toNat < 0xd800 ∨ 0xdfff < c.val.toNat ∧ c.val.toNat < 0x110000 := c.valid
  have hofNat : Char.ofNat c.val.toNat = c := Char.ofNat_toNat c
  rw [String.utf8EncodeChar]
  -- from here on only the number of the character matters; one case for each length
  generalize c.val.toNat = v at hvalid hofNat ⊢
  split
  · refine ⟨_, [], rfl, .inl ⟨?_, rfl⟩⟩
    simp only [lead, toNat_ofNat_of_lt (show v < 256 by omega)]
    rw [if_pos (by omega), hofNat]
  split
  · refine ⟨_, _, rfl, .inr ⟨_, lead_two (by omega) (by omega), fun rest => ?_⟩⟩
    have hlast := accepts_ofNat (s := ⟨1, 0x80, 0xBF, v / 64⟩) (n := v % 64 + 128) (by omega)
      (by simp) (by simp; omega)
    rw [List.cons_append, complete_last hlast (by simp), pushBits_ofNat _ (by omega)]
    simp only [List.nil_append]
    rw [show v / 64 * 64 + v % 64 = v by omega, hofNat]
  split
  · obtain ⟨least, greatest, hlead, hlow, hhigh⟩ :=
      lead_three (v := v) (by omega) (by omega) (by omega)
    refine ⟨_, _, rfl, .inr ⟨_, hlead, fun rest => ?_⟩⟩
    rw [List.cons_append, complete_cons (accepts_ofNat (by omega) hlow hhigh) (by simp),
      List.cons_append, complete_last (accepts_ofNat (by omega) (by simp [Start.push])
        (by simp [Start.push]; omega)) (by simp [Start.push])]
    simp only [Start.push, pushBits_ofNat _ (show v / 64 % 64 < 64 by omega),
      pushBits_ofNat _ (show v % 64 < 64 by omega), List.nil_append]
    rw [show (v / 4096 * 64 + v / 64 % 64) * 64 + v % 64 = v by omega, hofNat]
  · obtain ⟨least, greatest, hlead, hlow, hhigh⟩ := lead_four (v := v) (by omega) (by omega)
    refine ⟨_, _, rfl, .inr ⟨_, hlead, fun rest => ?_⟩⟩
    rw [List.cons_append, complete_cons (accepts_ofNat (by omega) hlow hhigh) (by simp),
      List.cons_append, complete_cons (accepts_ofNat (by omega) (by simp [Start.push])
        (by simp [Start.push]; omega)) (by simp [Start.push]),
      List.cons_append, complete_last (accepts_ofNat (by omega) (by simp [Start.push])
        (by simp [Start.push]; omega)) (by simp [Start.push])]
    simp only [Start.push, pushBits_ofNat _ (show v / 4096 % 64 < 64 by omega),
      pushBits_ofNat _ (show v / 64 % 64 < 64 by omega),
      pushBits_ofNat _ (show v % 64 < 64 by omega), List.nil_append]
    rw [show ((v / 262144 * 64 + v / 4096 % 64) * 64 + v / 64 % 64) * 64 + v % 64 = v by omega,
      hofNat]

lemma decodeFrom_utf8EncodeChar (position : Nat) (c : Char) (rest : List UInt8) :
    ∃ next, decodeFrom position (String.utf8EncodeChar c ++ rest)
      = (decodeFrom next rest).map (c :: ·) := by
  obtain ⟨b, tail, hbytes, ⟨hlead, rfl⟩ | ⟨s, hlead, hcomplete⟩⟩ := exists_lead_utf8EncodeChar c
  · refine ⟨position + 1, ?_⟩
    rw [hbytes, List.cons_append, List.nil_append, decodeFrom, hlead]
  · rw [hbytes, List.cons_append, decodeFrom, hlead]
    simp only [hcomplete]
    exact ⟨_, rfl⟩

/-! ### Texts -/

lemma encode_append (xs ys : List Char) : encode (xs ++ ys) = encode xs ++ encode ys :=
  List.flatMap_append

/-- Encoded characters are decoded again. -/
lemma decodeStrict_encode (cs : List Char) : decodeStrict (encode cs) = .ok cs := by
  have hfrom : ∀ position, decodeFrom position (encode cs) = .ok cs := by
    induction cs with
    | nil =>
      intro position
      rw [encode, List.flatMap_nil, decodeFrom]
    | cons c rest ih =>
      intro position
      obtain ⟨next, hnext⟩ := decodeFrom_utf8EncodeChar position c (encode rest)
      rw [encode, List.flatMap_cons, ← encode, hnext, ih]
      rfl
  exact hfrom 0

/-! ### What is accepted -/

/-- The bytes that complete a character, apart from those behind it. -/
lemma exists_of_complete {s : Start} {bytes behind : List UInt8} {c : Char}
    (h : complete s bytes = (some c, behind)) :
    ∃ tail, bytes = tail ++ behind ∧ complete s tail = (some c, []) := by
  induction bytes generalizing s with
  | nil => simp [complete] at h
  | cons b rest ih =>
    rw [complete] at h
    split at h
    · rename_i hb
      split at h
      · rename_i hs
        obtain ⟨hc, rfl⟩ := Prod.mk.inj h
        exact ⟨[b], rfl, by rw [complete_last hb hs, hc]⟩
      · rename_i hs
        obtain ⟨tail, rfl, htail⟩ := ih h
        exact ⟨b :: tail, rfl, by rw [complete_cons hb (Nat.not_le.1 hs), htail]⟩
    · simp at h

lemma complete_inv_last {s : Start} {tail : List UInt8} {c : Char}
    (h : complete s tail = (some c, [])) (hs : s.missing ≤ 1) :
    ∃ b, tail = [b] ∧ s.least ≤ b.toNat ∧ b.toNat ≤ s.greatest ∧ c = Char.ofNat (s.pushBits b) := by
  cases tail with
  | nil => simp [complete] at h
  | cons b rest =>
    by_cases hb : s.accepts b = true
    · rw [complete_last hb hs] at h
      simp only [Prod.mk.injEq, Option.some.injEq] at h
      simp only [Start.accepts, Bool.and_eq_true, decide_eq_true_eq] at hb
      exact ⟨b, by rw [h.2], hb.1, hb.2, h.1.symm⟩
    · rw [complete, if_neg hb] at h
      simp at h

lemma complete_inv_cons {s : Start} {tail : List UInt8} {c : Char}
    (h : complete s tail = (some c, [])) (hs : 1 < s.missing) :
    ∃ b rest, tail = b :: rest ∧ s.least ≤ b.toNat ∧ b.toNat ≤ s.greatest ∧
      complete (s.push b) rest = (some c, []) := by
  cases tail with
  | nil => simp [complete] at h
  | cons b rest =>
    by_cases hb : s.accepts b = true
    · rw [complete_cons hb hs] at h
      simp only [Start.accepts, Bool.and_eq_true, decide_eq_true_eq] at hb
      exact ⟨b, rest, rfl, hb.1, hb.2, h⟩
    · rw [complete, if_neg hb] at h
      simp at h

/-- What a byte that starts a character says about the rest of it. -/
lemma start_cases {b : UInt8} {s : Start} (h : lead b = .start s) :
    (0x80 ≤ s.least ∧ s.least ≤ s.greatest ∧ s.greatest ≤ 0xBF ∧
      (s.greatest = 0x9F → b.toNat = 0xED)) ∧
    ((s.missing = 1 ∧ b.toNat = s.bits + 0xC0 ∧ 2 ≤ s.bits ∧ s.bits < 32) ∨
      (s.missing = 2 ∧ b.toNat = s.bits + 0xE0 ∧ s.bits < 16 ∧ (s.bits = 0 → s.least = 0xA0) ∧
        (s.bits = 0xD → s.greatest = 0x9F)) ∨
      (s.missing = 3 ∧ b.toNat = s.bits + 0xF0 ∧ s.bits < 5 ∧ (s.bits = 0 → s.least = 0x90) ∧
        (s.bits = 4 → s.greatest = 0x8F))) := by
  simp only [lead] at h
  split_ifs at h
  all_goals
    cases h
    dsimp only
    omega

lemma toNat_ofNat_of_valid (hv : v < 0xd800 ∨ 0xdfff < v ∧ v < 0x110000) :
    (Char.ofNat v).val.toNat = v := by
  have hvalid : v.isValidChar := hv
  rw [Char.ofNat, dif_pos hvalid]
  rfl

lemma ofNat_eq_of_toNat {n : Nat} {b : UInt8} (h : n = b.toNat) : UInt8.ofNat n = b := by
  rw [h, UInt8.ofNat_toNat]

/-- The bytes of a character, by its number. -/
lemma utf8EncodeChar_of_toNat {c : Char} (hv : c.val.toNat = v) :
    (0x7f < v → v ≤ 0x7ff → String.utf8EncodeChar c
      = [.ofNat (v / 64 % 32 + 192), .ofNat (v % 64 + 128)]) ∧
    (0x7ff < v → v ≤ 0xffff → String.utf8EncodeChar c
      = [.ofNat (v / 4096 % 16 + 224), .ofNat (v / 64 % 64 + 128), .ofNat (v % 64 + 128)]) ∧
    (0xffff < v → String.utf8EncodeChar c
      = [.ofNat (v / 262144 % 8 + 240), .ofNat (v / 4096 % 64 + 128), .ofNat (v / 64 % 64 + 128),
        .ofNat (v % 64 + 128)]) := by
  rw [String.utf8EncodeChar, hv]
  refine ⟨fun _ _ => ?_, fun _ _ => ?_, fun _ => ?_⟩
  · rw [if_neg (by omega), if_pos (by omega)]
  · rw [if_neg (by omega), if_neg (by omega), if_pos (by omega)]
  · rw [if_neg (by omega), if_neg (by omega), if_neg (by omega)]

/-- A byte that starts a character and bytes that complete it are the bytes of the character. -/
lemma utf8EncodeChar_of_complete {b : UInt8} {s : Start} {tail : List UInt8} {c : Char}
    (hlead : lead b = .start s) (h : complete s tail = (some c, [])) :
    String.utf8EncodeChar c = b :: tail := by
  obtain ⟨⟨hleast, -, hgreatest, -⟩, ⟨hs, hb, hlow, hhigh⟩ | ⟨hs, hb, hbits, hlow, hhigh⟩ |
    ⟨hs, hb, hbits, hlow, hhigh⟩⟩ := start_cases hlead
  · obtain ⟨x, rfl, hx, hx', hc⟩ := complete_inv_last h (by omega)
    obtain ⟨v, hval, hv⟩ : ∃ v, c.val.toNat = v ∧ v = s.bits * 64 + (x.toNat - 0x80) := by
      refine ⟨s.pushBits x, ?_, rfl⟩
      rw [hc]
      exact toNat_ofNat_of_valid (by unfold Start.pushBits; omega)
    have hfirst : UInt8.ofNat (v / 64 % 32 + 192) = b := ofNat_eq_of_toNat (by omega)
    have hlast : UInt8.ofNat (v % 64 + 128) = x := ofNat_eq_of_toNat (by omega)
    rw [(utf8EncodeChar_of_toNat hval).1 (by omega) (by omega), hfirst, hlast]
  · obtain ⟨x, rest, rfl, hx, hx', h⟩ := complete_inv_cons h (by omega)
    obtain ⟨y, rfl, hy, hy', hc⟩ := complete_inv_last h (by simp only [Start.push]; omega)
    simp only [Start.push] at hy hy'
    obtain ⟨v, hval, hv⟩ : ∃ v, c.val.toNat = v ∧
        v = (s.bits * 64 + (x.toNat - 0x80)) * 64 + (y.toNat - 0x80) := by
      refine ⟨(s.push x).pushBits y, ?_, rfl⟩
      rw [hc]
      exact toNat_ofNat_of_valid (by unfold Start.push Start.pushBits; dsimp only; omega)
    have hfirst : UInt8.ofNat (v / 4096 % 16 + 224) = b := ofNat_eq_of_toNat (by omega)
    have hsecond : UInt8.ofNat (v / 64 % 64 + 128) = x := ofNat_eq_of_toNat (by omega)
    have hlast : UInt8.ofNat (v % 64 + 128) = y := ofNat_eq_of_toNat (by omega)
    rw [(utf8EncodeChar_of_toNat hval).2.1 (by omega) (by omega), hfirst, hsecond, hlast]
  · obtain ⟨x, rest, rfl, hx, hx', h⟩ := complete_inv_cons h (by omega)
    obtain ⟨y, rest, rfl, hy, hy', h⟩ := complete_inv_cons h (by simp only [Start.push]; omega)
    obtain ⟨z, rfl, hz, hz', hc⟩ := complete_inv_last h (by simp only [Start.push]; omega)
    simp only [Start.push] at hy hy' hz hz'
    obtain ⟨v, hval, hv⟩ : ∃ v, c.val.toNat = v ∧
        v = ((s.bits * 64 + (x.toNat - 0x80)) * 64 + (y.toNat - 0x80)) * 64 + (z.toNat - 0x80) := by
      refine ⟨((s.push x).push y).pushBits z, ?_, rfl⟩
      rw [hc]
      exact toNat_ofNat_of_valid (by unfold Start.push Start.pushBits; dsimp only; omega)
    have hfirst : UInt8.ofNat (v / 262144 % 8 + 240) = b := ofNat_eq_of_toNat (by omega)
    have hsecond : UInt8.ofNat (v / 4096 % 64 + 128) = x := ofNat_eq_of_toNat (by omega)
    have hthird : UInt8.ofNat (v / 64 % 64 + 128) = y := ofNat_eq_of_toNat (by omega)
    have hlast : UInt8.ofNat (v % 64 + 128) = z := ofNat_eq_of_toNat (by omega)
    rw [(utf8EncodeChar_of_toNat hval).2.2 (by omega), hfirst, hsecond, hthird, hlast]

lemma utf8EncodeChar_of_lead {b : UInt8} {c : Char} (h : lead b = .char c) :
    String.utf8EncodeChar c = [b] := by
  by_cases hb : b.toNat < 0x80
  · simp only [lead, if_pos hb, Lead.char.injEq] at h
    rw [← h, String.utf8EncodeChar, toNat_ofNat_of_valid (by omega), if_pos (by omega),
      ofNat_eq_of_toNat rfl]
  · simp only [lead, if_neg hb] at h
    split_ifs at h

lemma exists_of_map_eq_ok {α β ε : Type} {f : α → β} {x : Except ε α} {b : β}
    (h : x.map f = .ok b) : ∃ a, x = .ok a ∧ f a = b := by
  cases x with
  | error e => cases h
  | ok a => exact ⟨a, rfl, Except.ok.inj h⟩

/-- Bytes that are accepted are the bytes of the characters that they are read as. -/
lemma eq_encode_of_decodeFrom {position : Nat} {bytes : List UInt8} {cs : List Char}
    (h : decodeFrom position bytes = .ok cs) : bytes = encode cs := by
  fun_induction decodeFrom position bytes generalizing cs with
  | case1 =>
    cases h
    rfl
  | case2 position b rest c hlead ih =>
    obtain ⟨ds, hds, rfl⟩ := exists_of_map_eq_ok h
    rw [encode, List.flatMap_cons, utf8EncodeChar_of_lead hlead, ← encode, ← ih hds]
    rfl
  | case3 => cases h
  | case4 position b rest s hlead _ _ c hc =>
    rename_i ih
    obtain ⟨ds, hds, rfl⟩ := exists_of_map_eq_ok h
    obtain ⟨tail, hrest, htail⟩ := exists_of_complete (Prod.ext hc rfl)
    rw [encode, List.flatMap_cons, utf8EncodeChar_of_complete hlead htail, ← encode, ← ih hds,
      hrest]
    rfl
  | case5 => cases h

/-- Strict decoding accepts what encoding gives, and nothing else. -/
lemma decodeStrict_eq_ok_iff {bytes : List UInt8} {cs : List Char} :
    decodeStrict bytes = .ok cs ↔ bytes = encode cs :=
  ⟨eq_encode_of_decodeFrom, fun h => h ▸ decodeStrict_encode cs⟩

end ProverLink.Utf8
