import Mathlib.Tactic.Common
import ProverLink.Text.Utf8

/-!
# Decoding piece by piece

However the bytes are cut, a decoder gives the characters that decoding all of them at once gives.
`Decoder.resume` says what the rest of the bytes gives behind a decoder that has stopped anywhere,
in terms of `decode` alone; every byte and the end of the bytes agree with it.
-/

namespace ProverLink.Utf8.Decoder

/-- What the rest of the bytes gives if it comes at once. -/
def resume : Decoder → List UInt8 → List Char
  | .clean, bytes => decode bytes
  | .within s, bytes => (complete s bytes).1.getD replacement :: decode (complete s bytes).2
  | .surrogate, bytes => replacement :: replacement :: decode bytes

lemma resume_nil (d : Decoder) : d.resume [] = d.finish := by
  cases d <;> simp [resume, finish, complete, decode]

lemma decode_cons (b : UInt8) (bytes : List UInt8) :
    decode (b :: bytes) = (first b).1 ++ (first b).2.resume bytes := by
  rw [decode, first]
  cases lead b <;> rfl

lemma restart_resume (cs : List Char) (b : UInt8) (bytes : List UInt8) :
    (restart cs b).1 ++ (restart cs b).2.resume bytes = cs ++ decode (b :: bytes) := by
  rw [decode_cons]
  simp [restart]

/-- The second byte of what would be a surrogate starts no character. -/
lemma lead_of_makesSurrogate {s : Start} {b : UInt8} (h : s.makesSurrogate b = true) :
    lead b = .invalid := by
  simp only [Start.makesSurrogate, Bool.and_eq_true, decide_eq_true_eq] at h
  obtain ⟨⟨_, hlow⟩, hhigh⟩ := h
  simp only [lead]
  rw [if_neg (by omega), if_pos (by omega)]

/-- One byte taken by itself, or together with all that follow it. -/
lemma resume_cons (d : Decoder) (b : UInt8) (bytes : List UInt8) :
    d.resume (b :: bytes) = (d.step b).1 ++ (d.step b).2.resume bytes := by
  cases d with
  | clean => exact decode_cons b bytes
  | surrogate => exact (restart_resume [replacement, replacement] b bytes).symm
  | within s =>
    simp only [resume, complete, step]
    by_cases ha : s.accepts b = true
    · simp only [ha, if_true]
      by_cases hm : s.missing ≤ 1
      · simp [hm]
      · simp [hm]
    · simp only [ha, Bool.false_eq_true, if_false]
      by_cases hs : s.makesSurrogate b = true
      · simp [hs, resume, decode_cons, first, lead_of_makesSurrogate hs]
      · simp only [hs, Bool.false_eq_true, if_false]
        exact (restart_resume [replacement] b bytes).symm

/-- What a decoder gives for some bytes and at their end is what they give at once. -/
lemma feed_finish (d : Decoder) (bytes : List UInt8) :
    (d.feed bytes).1 ++ (d.feed bytes).2.finish = d.resume bytes := by
  induction bytes generalizing d with
  | nil => simp [feed, resume_nil]
  | cons b rest ih => simp [feed, resume_cons, ih]

/-- The texts that chunks of bytes give one after the other, the last one at the end of them. -/
def texts : Decoder → List (List UInt8) → List (List Char)
  | d, [] => [d.finish]
  | d, chunk :: rest => (d.feed chunk).1 :: texts (d.feed chunk).2 rest

/-- The texts do not depend on the cuts between the chunks, once they are put together. -/
lemma flatten_texts (d : Decoder) (chunks : List (List UInt8)) :
    (d.texts chunks).flatten = d.resume chunks.flatten := by
  induction chunks generalizing d with
  | nil => simp [texts, resume_nil]
  | cons chunk rest ih =>
    rw [texts, List.flatten_cons, ih, List.flatten_cons, ← feed_finish, ← feed_finish, feed_append]
    simp

end ProverLink.Utf8.Decoder
