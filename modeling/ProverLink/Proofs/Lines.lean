import Mathlib.Tactic.Common
import ProverLink.Text.LineBuffer

/-!
# Lines of a text

The lines that end inside a text, with what follows the last of them, are its segments between line
breaks. Cutting the text in two does not change them, if what is left over in the first part is put
in front of the second.
-/

namespace ProverLink.LineBuffer

@[simp] lemma split_nil : split [] = ([], []) := rfl

lemma split_newline (cs : List Char) : split ('\n' :: cs) = ([] :: (split cs).1, (split cs).2) := by
  simp [split]

lemma split_cons_of_ne {c : Char} (hc : c ≠ '\n') (cs : List Char) :
    split (c :: cs)
      = ((split cs).1.modifyHead (c :: ·),
          if (split cs).1.isEmpty then c :: (split cs).2 else (split cs).2) := by
  rw [split]
  rcases split cs with ⟨_ | ⟨l, ls⟩, last⟩
  · simp [hc]
  · simp [hc]

lemma split_of_notMem {cs : List Char} (h : '\n' ∉ cs) : split cs = ([], cs) := by
  induction cs with
  | nil => rfl
  | cons c rest ih =>
    rw [List.mem_cons, not_or] at h
    rw [split_cons_of_ne (Ne.symm h.1), ih h.2]
    rfl

/-- A line and its break in front of a text. -/
lemma split_append_newline {l : List Char} (h : '\n' ∉ l) (cs : List Char) :
    split (l ++ '\n' :: cs) = (l :: (split cs).1, (split cs).2) := by
  induction l with
  | nil => exact split_newline cs
  | cons c rest ih =>
    rw [List.mem_cons, not_or] at h
    rw [List.cons_append, split_cons_of_ne (Ne.symm h.1), ih h.2]
    rfl

lemma split_flatMap_newline {lines : List (List Char)} (h : ∀ l ∈ lines, '\n' ∉ l) :
    split (lines.flatMap (· ++ ['\n'])) = (lines, []) := by
  induction lines with
  | nil => rfl
  | cons l rest ih =>
    have hrest := ih fun l' hl' => h l' (List.mem_cons_of_mem l hl')
    rw [List.flatMap_cons, List.append_assoc, List.singleton_append,
      split_append_newline (h l List.mem_cons_self), hrest]

lemma feed_flatMap_newline {lines : List (List Char)} (h : ∀ l ∈ lines, '\n' ∉ l) :
    feed {} (lines.flatMap (· ++ ['\n'])) = (lines, {}) := by
  simp only [feed, List.nil_append, split_flatMap_newline h]

/-- What the first part of a text leaves over stands in front of the second part. -/
lemma split_append (xs ys : List Char) :
    split (xs ++ ys)
      = ((split xs).1 ++ (split ((split xs).2 ++ ys)).1, (split ((split xs).2 ++ ys)).2) := by
  induction xs with
  | nil => simp
  | cons c rest ih =>
    rw [List.cons_append]
    by_cases hc : c = '\n'
    · subst hc
      rw [split_newline, split_newline, ih]
      rfl
    · rw [split_cons_of_ne hc, split_cons_of_ne hc, ih]
      cases h : (split rest).1 with
      | nil => simp [split_cons_of_ne hc]
      | cons l ls => simp

/-- The segments between line breaks are the lines and what follows the last of them. -/
lemma splitOn_newline (cs : List Char) : cs.splitOn '\n' = (split cs).1 ++ [(split cs).2] := by
  induction cs with
  | nil => rfl
  | cons c rest ih =>
    rw [List.splitOn_cons_eq_if_modifyHead, ih]
    by_cases hc : c = '\n'
    · subst hc
      rw [split_newline]
      rfl
    · rw [split_cons_of_ne hc, if_neg (by simpa using hc)]
      cases h : (split rest).1 with
      | nil => simp
      | cons l ls => simp

/-- A text in two parts: first the lines of the first part, then those that the second completes. -/
lemma splitOn_append (xs ys : List Char) :
    (xs ++ ys).splitOn '\n' = (split xs).1 ++ ((split xs).2 ++ ys).splitOn '\n' := by
  rw [splitOn_newline, splitOn_newline, split_append, List.append_assoc]

lemma newline_notMem_rest (cs : List Char) : '\n' ∉ (split cs).2 := (newline_notMem_split cs).1

end ProverLink.LineBuffer
