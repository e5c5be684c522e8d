import ProverLink.Proofs.Decoding
import ProverLink.Proofs.Encoding

/-!
# Bytes that a decoder holds back

Between two pieces a decoder holds back the bytes at the end that begin a character and do not end
it. What it has given by then is what the bytes before them give.
-/

namespace ProverLink.Utf8

/-- Bytes that begin a character and do not end it, or the first two of what would be a
surrogate. -/
def IsBegun (bytes : List UInt8) : Prop :=
  (∃ c tail, String.utf8EncodeChar c = bytes ++ tail ∧ bytes ≠ [] ∧ tail ≠ []) ∨
    ∃ b : UInt8, bytes = [0xED, b] ∧ 0xA0 ≤ b.toNat ∧ b.toNat ≤ 0xBF

/-- The longest bytes at the end of some bytes that are only begun; none if they all are
complete. -/
structure IsTrail (bytes trail : List UInt8) : Prop where
  suffix : trail <:+ bytes
  begun : trail = [] ∨ IsBegun trail
  longest : ∀ other, other <:+ bytes → IsBegun other → other.length ≤ trail.length

/-! ### The bytes behind a start -/

/-- The bytes so far that led to a start: together with what completes it they are a character. -/
structure Start.Follows (s : Start) (held : List UInt8) : Prop where
  least : s.least ≤ s.greatest
  greatest : s.greatest ≤ 0xBF
  narrow : s.greatest = 0x9F → held = [0xED]
  encodes : ∀ tail c, complete s tail = (some c, []) → String.utf8EncodeChar c = held ++ tail

namespace Start.Follows

lemma lead {b : UInt8} {s : Start} (h : Utf8.lead b = .start s) : s.Follows [b] := by
  obtain ⟨⟨-, hleast, hgreatest, hnarrow⟩, -⟩ := start_cases h
  refine ⟨hleast, hgreatest, fun hs => ?_, fun tail c hc => utf8EncodeChar_of_complete h hc⟩
  rw [← ofNat_eq_of_toNat (b := b) (hnarrow hs).symm]
  rfl

lemma push {s : Start} {held : List UInt8} {b : UInt8} (h : s.Follows held)
    (hb : s.accepts b = true) (hs : 1 < s.missing) : (s.push b).Follows (held ++ [b]) where
  least := by simp [Start.push]
  greatest := by simp [Start.push]
  narrow := by simp [Start.push]
  encodes tail c hc := by
    rw [List.append_assoc]
    exact h.encodes (b :: tail) c (by rw [complete_cons hb hs, hc])

/-- There is always a way to go on. -/
lemma exists_complete {s : Start} (hleast : s.least ≤ s.greatest) (hgreatest : s.greatest ≤ 0xBF) :
    ∃ tail c, tail ≠ [] ∧ complete s tail = (some c, []) := by
  have hb := accepts_ofNat (s := s) (n := s.least) (by omega) (Nat.le_refl _) hleast
  induction hm : s.missing generalizing s with
  | zero => exact ⟨[_], _, by simp, complete_last hb (by omega) []⟩
  | succ m ih =>
    by_cases hs : s.missing ≤ 1
    · exact ⟨[_], _, by simp, complete_last hb hs []⟩
    · obtain ⟨tail, c, -, hc⟩ := @ih (s.push (.ofNat s.least)) (by simp [Start.push])
        (by simp [Start.push]) (by simp [Start.push, Start.accepts]) (by simp [Start.push, hm])
      exact ⟨_ :: tail, c, by simp, by rw [complete_cons hb (Nat.not_le.1 hs), hc]⟩

lemma isBegun {s : Start} {held : List UInt8} (h : s.Follows held) (hne : held ≠ []) :
    IsBegun held := by
  obtain ⟨tail, c, htail, hc⟩ := exists_complete h.least h.greatest
  exact .inl ⟨c, tail, h.encodes tail c hc, hne, htail⟩

end Start.Follows

/-! ### What a decoder holds back -/

namespace Decoder

/-- The bytes that a decoder has taken and not given. -/
def Holds : Decoder → List UInt8 → Prop
  | .clean, held => held = []
  | .within s, held => held ≠ [] ∧ s.Follows held
  | .surrogate, held => ∃ b : UInt8, held = [0xED, b] ∧ 0xA0 ≤ b.toNat ∧ b.toNat ≤ 0xBF

lemma Holds.isBegun {d : Decoder} {held : List UInt8} (h : d.Holds held) (hd : d ≠ .clean) :
    IsBegun held := by
  cases d with
  | clean => exact absurd rfl hd
  | within s => exact h.2.isBegun h.1
  | surrogate => exact .inr h

lemma holds_first (b : UInt8) : ∃ held, held <:+ [b] ∧ (first b).2.Holds held := by
  rw [first]
  cases hlead : lead b with
  | char c => exact ⟨[], List.nil_suffix, rfl⟩
  | invalid => exact ⟨[], List.nil_suffix, rfl⟩
  | start s => exact ⟨[b], List.suffix_rfl, by simp, .lead hlead⟩

lemma holds_step {d : Decoder} {held : List UInt8} (h : d.Holds held) (b : UInt8) :
    ∃ held', held' <:+ held ++ [b] ∧ (d.step b).2.Holds held' := by
  have hrestart : ∀ cs, ∃ held', held' <:+ held ++ [b] ∧ (restart cs b).2.Holds held' := by
    intro cs
    obtain ⟨held', hsuffix, hholds⟩ := holds_first b
    exact ⟨held', hsuffix.trans (List.suffix_append ..), hholds⟩
  cases d with
  | clean =>
    cases h
    exact holds_first b
  | surrogate => exact hrestart _
  | within s =>
    rw [step]
    split
    · rename_i hb
      split
      · exact ⟨[], List.nil_suffix, rfl⟩
      · rename_i hs
        exact ⟨held ++ [b], List.suffix_rfl, by simp, h.2.push hb (Nat.not_le.1 hs)⟩
    split
    · rename_i hb
      simp only [Start.makesSurrogate, Bool.and_eq_true, decide_eq_true_eq] at hb
      exact ⟨held ++ [b], List.suffix_rfl, b, by rw [h.2.narrow hb.1.1]; rfl, hb.1.2, hb.2⟩
    · exact hrestart _

lemma holds_feed {d : Decoder} {held : List UInt8} (h : d.Holds held) (bytes : List UInt8) :
    ∃ held', held' <:+ held ++ bytes ∧ (d.feed bytes).2.Holds held' := by
  induction bytes generalizing d held with
  | nil => exact ⟨held, by simp, h⟩
  | cons b rest ih =>
    obtain ⟨held₁, hsuffix₁, hholds₁⟩ := holds_step h b
    obtain ⟨held₂, hsuffix₂, hholds₂⟩ := ih hholds₁
    refine ⟨held₂, hsuffix₂.trans ?_, hholds₂⟩
    obtain ⟨front, hfront⟩ := hsuffix₁
    exact ⟨front, by rw [← List.append_assoc, hfront]; simp⟩

/-! ### Bytes that are only begun -/

/-- A byte that starts a character is never taken for a later one. -/
lemma step_of_start {d : Decoder} {held : List UInt8} (h : d.Holds held) {b : UInt8} {s : Start}
    (hlead : lead b = .start s) : d.step b = (d.finish, .within s) := by
  have hfirst : first b = ([], .within s) := by rw [first, hlead]
  have hlow : 0xC2 ≤ b.toNat := by
    obtain ⟨-, h | h | h⟩ := start_cases hlead <;> omega
  cases d with
  | clean => exact hfirst
  | surrogate => rw [step, restart, hfirst]; rfl
  | within t =>
    have hgreatest := h.2.greatest
    have haccepts : t.accepts b = false := by
      simp only [Start.accepts, Bool.and_eq_false_iff, decide_eq_false_iff_not]
      omega
    have hsurrogate : t.makesSurrogate b = false := by
      simp only [Start.makesSurrogate, Bool.and_eq_false_iff, decide_eq_false_iff_not]
      omega
    rw [step, haccepts, hsurrogate, restart, hfirst]
    rfl

/-- Nothing is given as long as a character is not complete. -/
lemma feed_within {s : Start} {bytes tail : List UInt8} {c : Char} (htail : tail ≠ [])
    (h : complete s (bytes ++ tail) = (some c, [])) :
    ∃ t, (Decoder.within s).feed bytes = ([], .within t) := by
  induction bytes generalizing s with
  | nil => exact ⟨s, rfl⟩
  | cons b rest ih =>
    rw [List.cons_append, complete] at h
    split at h
    · rename_i hb
      split at h
      · simp [htail] at h
      · rename_i hs
        obtain ⟨t, ht⟩ := ih h
        exact ⟨t, by simp only [feed, step, hb, hs, if_true, if_false, ht, List.nil_append]⟩
    · simp at h

end Decoder

lemma le_of_complete {s : Start} {tail : List UInt8} {c : Char}
    (h : complete s tail = (some c, [])) (hs : s.greatest ≤ 0xBF) : ∀ x ∈ tail, x.toNat ≤ 0xBF := by
  induction tail generalizing s with
  | nil => simp
  | cons b rest ih =>
    by_cases hm : s.missing ≤ 1
    · obtain ⟨x, htail, -, hx, -⟩ := complete_inv_last h hm
      rw [htail]
      simpa using Nat.le_trans hx hs
    · obtain ⟨x, rest', htail, -, hx, hrest⟩ := complete_inv_cons h (Nat.not_le.1 hm)
      obtain ⟨rfl, rfl⟩ := List.cons.inj htail
      exact List.forall_mem_cons.2 ⟨Nat.le_trans hx hs, ih hrest (by simp [Start.push])⟩

/-- Bytes that are only begun are a start and later bytes, and they are held back. -/
lemma IsBegun.exists_lead {bytes : List UInt8} (h : IsBegun bytes) :
    ∃ b rest s, bytes = b :: rest ∧ lead b = .start s ∧ (∀ x ∈ rest, x.toNat ≤ 0xBF) ∧
      ∃ d, d ≠ .clean ∧ (Decoder.within s).feed rest = ([], d) := by
  obtain ⟨c, tail, hbytes, hne, htail⟩ | ⟨b, rfl, hlow, hhigh⟩ := h
  · obtain ⟨x, rest, rfl⟩ := List.exists_cons_of_ne_nil hne
    obtain ⟨b, others, hencode, hcases⟩ := exists_lead_utf8EncodeChar c
    obtain ⟨rfl, rfl⟩ := List.cons.inj (hencode.symm.trans hbytes)
    obtain ⟨-, hnil⟩ | ⟨s, hlead, hcomplete⟩ := hcases
    · exact absurd (List.append_eq_nil_iff.1 hnil).2 htail
    · have hall := hcomplete []
      rw [List.append_nil] at hall
      obtain ⟨t, ht⟩ := Decoder.feed_within htail hall
      have hle := le_of_complete hall (Start.Follows.lead hlead).greatest
      exact ⟨b, rest, s, rfl, hlead, fun x hx => hle x (List.mem_append_left _ hx), _, by simp, ht⟩
  · refine ⟨0xED, [b], ⟨2, 0x80, 0x9F, 0xD⟩, rfl, rfl, by simpa using hhigh, .surrogate,
      by simp, ?_⟩
    have haccepts : ¬(b.toNat ≤ 0x9F) := by omega
    simp [Decoder.feed, Decoder.step, Start.accepts, Start.makesSurrogate, haccepts, hlow, hhigh]

namespace Decoder

/-- They also end what was begun before them. -/
lemma feed_of_isBegun {d : Decoder} {held bytes : List UInt8} (h : d.Holds held)
    (hbytes : IsBegun bytes) : (d.feed bytes).1 = d.finish ∧ (d.feed bytes).2 ≠ .clean := by
  obtain ⟨b, rest, s, rfl, hlead, -, d', hd', hfeed⟩ := hbytes.exists_lead
  simp only [feed, step_of_start h hlead, hfeed, List.append_nil]
  exact ⟨trivial, hd'⟩

lemma feed_append_of_isBegun {whole bytes : List UInt8} (h : IsBegun bytes) :
    (clean.feed (whole ++ bytes)).1 = decode whole ∧ (clean.feed (whole ++ bytes)).2 ≠ .clean := by
  obtain ⟨held, -, hheld⟩ := @holds_feed .clean [] rfl whole
  obtain ⟨hgiven, hclean⟩ := feed_of_isBegun hheld h
  rw [feed_append]
  refine ⟨?_, hclean⟩
  dsimp only
  rw [hgiven, feed_finish]
  rfl

/-- What has been given by the end of some bytes is what they give without those that are held
back. -/
lemma exists_trail (bytes : List UInt8) :
    ∃ whole trail, bytes = whole ++ trail ∧ IsTrail bytes trail ∧
      (clean.feed bytes).1 = decode whole := by
  obtain ⟨held, ⟨whole, hwhole⟩, hheld⟩ := @holds_feed .clean [] rfl bytes
  rw [List.nil_append] at hwhole
  by_cases hclean : (clean.feed bytes).2 = .clean
  · refine ⟨bytes, [], by simp, ⟨List.nil_suffix, .inl rfl, ?_⟩, ?_⟩
    · rintro other ⟨front, rfl⟩ hother
      exact absurd hclean (feed_append_of_isBegun hother).2
    · have hfinish := feed_finish .clean bytes
      rw [hclean] at hfinish
      exact (List.append_nil _).symm.trans hfinish
  · have hbegun := hheld.isBegun hclean
    refine ⟨whole, held, hwhole.symm, ⟨⟨whole, hwhole⟩, .inr hbegun, ?_⟩, ?_⟩
    · -- a longer one would have the start of the held bytes among its later bytes
      intro other hother hbegun'
      by_contra hlong
      obtain ⟨front, hfront⟩ := List.suffix_of_suffix_length_le ⟨whole, hwhole⟩ hother
        (Nat.le_of_not_le hlong)
      obtain ⟨b, rest, s, hb, hlead, -⟩ := hbegun.exists_lead
      obtain ⟨b', rest', -, hb', -, hle, -⟩ := hbegun'.exists_lead
      have hlow : 0xC2 ≤ b.toNat := by
        obtain ⟨-, h | h | h⟩ := start_cases hlead <;> omega
      cases front with
      | nil => exact hlong (Nat.le_of_eq (congrArg List.length hfront.symm))
      | cons x front =>
        rw [hb', hb, List.cons_append, List.cons.injEq] at hfront
        have hmem : b ∈ rest' := by rw [← hfront.2]; simp
        have := hle b hmem
        omega
    · rw [← hwhole]
      exact (feed_append_of_isBegun hbegun).1

end Decoder

end ProverLink.Utf8
