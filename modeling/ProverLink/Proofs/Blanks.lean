import Mathlib.Data.List.DropRight
import Mathlib.Tactic.Common
import ProverLink.Text.Blank

/-!
# Trimmed texts and words

What trimming leaves is the one part of a text that starts and ends with no blank and has only
blanks around it. Words are the runs without blanks that end where a blank or the text's end
follows.
-/

namespace ProverLink.Blank

variable {α : Type} {p : α → Bool} {xs ys : List α}

/-! ### Trimming -/

/-- The second list is the first one without what satisfies `p` at its ends. -/
structure Trims (p : α → Bool) (xs ys : List α) : Prop where
  framed : ∃ front back, xs = front ++ ys ++ back ∧ (∀ x ∈ front, p x = true) ∧
    ∀ x ∈ back, p x = true
  first : ∀ x ∈ ys.head?, p x = false
  last : ∀ x ∈ ys.getLast?, p x = false

lemma head?_dropWhile (p : α → Bool) (xs : List α) : ∀ x ∈ (xs.dropWhile p).head?, p x = false := by
  intro x hx
  have h := List.head?_dropWhile_not p xs
  rw [hx] at h
  exact h

lemma trims_trim (p : α → Bool) (xs : List α) : Trims p xs (trim p xs) := by
  have hend : trim p xs ++ (xs.dropWhile p).rtakeWhile p = xs.dropWhile p :=
    List.rdropWhile_append_rtakeWhile
  refine ⟨⟨xs.takeWhile p, (xs.dropWhile p).rtakeWhile p, ?_, fun _ => List.mem_takeWhile_imp,
    fun _ => List.mem_rtakeWhile_imp⟩, ?_, ?_⟩
  · rw [List.append_assoc, hend, List.takeWhile_append_dropWhile]
  · intro x hx
    refine head?_dropWhile p xs x ?_
    rw [← hend]
    exact List.mem_head?_append_of_mem_head? hx
  · intro x hx
    refine head?_dropWhile p (xs.dropWhile p).reverse x ?_
    rwa [trim, trimEnd, List.getLast?_reverse] at hx

lemma trimEnd_of_bar {x : α} (hx : p x = false) (front back : List α) :
    trimEnd p (front ++ x :: back) = front ++ x :: trimEnd p back := by
  rw [trimEnd, trimEnd, List.reverse_append, List.reverse_cons, List.append_assoc,
    List.dropWhile_append]
  split
  · rename_i h
    rw [List.isEmpty_iff] at h
    simp [h, hx]
  · simp

lemma trim_of_bar {x : α} (hx : p x = false) {front back : List α}
    (hfirst : ∀ y ∈ front.head?, p y = false) :
    trim p (front ++ x :: back) = front ++ x :: trimEnd p back := by
  have hdrop : (front ++ x :: back).dropWhile p = front ++ x :: back := by
    cases front with
    | nil => exact List.dropWhile_cons_of_neg (by simp [hx])
    | cons y front => exact List.dropWhile_cons_of_neg (by simp [hfirst y rfl])
  rw [trim, hdrop, trimEnd_of_bar hx]

lemma trimEnd_of_all (h : ∀ x ∈ xs, p x = true) : trimEnd p xs = [] :=
  List.rdropWhile_eq_nil_iff.2 h

/-- There is only one way to trim. -/
lemma Trims.eq_trim (h : Trims p xs ys) : ys = trim p xs := by
  obtain ⟨⟨front, back, rfl, hfront, hback⟩, hfirst, hlast⟩ := h
  rw [trim, List.append_assoc, List.dropWhile_append_of_pos hfront]
  rcases List.eq_nil_or_concat' ys with rfl | ⟨init, x, rfl⟩
  · rw [List.nil_append, List.dropWhile_eq_nil_iff.2 hback]
    rfl
  · have hx : p x = false := hlast x (by simp)
    have hinit : ∀ y ∈ init.head?, p y = false := fun y hy =>
      hfirst y (List.mem_head?_append_of_mem_head? hy)
    have htrim : trim p (init ++ x :: back) = _ := trim_of_bar hx hinit
    rw [trimEnd_of_all hback, trim] at htrim
    rw [List.append_assoc, List.singleton_append, htrim]

lemma trim_map {β : Type} (p : β → Bool) (f : α → β) (xs : List α) :
    trim p (xs.map f) = (trim (fun x => p (f x)) xs).map f := by
  rw [trim, trim, trimEnd, trimEnd, List.dropWhile_map, ← List.map_reverse, List.dropWhile_map,
    ← List.map_reverse]
  rfl

lemma trim_eq_nil_iff : trim p xs = [] ↔ ∀ x ∈ xs, p x = true := by
  constructor
  · intro h
    obtain ⟨⟨front, back, hxs, hfront, hback⟩, -, -⟩ := trims_trim p xs
    rw [h, List.append_nil] at hxs
    rw [hxs]
    exact List.forall_mem_append.2 ⟨hfront, hback⟩
  · intro h
    rw [trim, List.dropWhile_eq_nil_iff.2 h]
    rfl

/-! ### Words -/

/-- A list cut into its words, the runs free of separators. -/
inductive Splits (p : α → Bool) : List α → List (List α) → Prop where
  | nil : Splits p [] []
  | separator (x : α) (hx : p x = true) {xs : List α} {ws : List (List α)} (h : Splits p xs ws) :
      Splits p (x :: xs) ws
  | word (w : List α) (hne : w ≠ []) (hw : ∀ x ∈ w, p x = false) {xs : List α}
      (hend : ∀ x ∈ xs.head?, p x = true) {ws : List (List α)} (h : Splits p xs ws) :
      Splits p (w ++ xs) (w :: ws)

/-- A word at the head of a list, in front of what is cut already. -/
structure Leads (p : α → Bool) (xs w : List α) (ws : List (List α)) : Prop where
  free : ∀ x ∈ w, p x = false
  rest : ∃ rest, xs = w ++ rest ∧ (∀ x ∈ rest.head?, p x = true) ∧ Splits p rest ws

lemma Leads.splits {w : List α} {ws : List (List α)} (h : Leads p xs w ws) :
    Splits p xs (consWord w ws) := by
  obtain ⟨hfree, rest, rfl, hend, hrest⟩ := h
  cases w with
  | nil => exact hrest
  | cons x w => exact .word _ (by simp) hfree hend hrest

lemma leads_splitWords (p : α → Bool) (xs : List α) :
    Leads p xs (splitWords p xs).1 (splitWords p xs).2 := by
  induction xs with
  | nil => exact ⟨by simp [splitWords], [], rfl, by simp, .nil⟩
  | cons x xs ih =>
    rw [splitWords]
    dsimp only
    split
    · rename_i hx
      exact ⟨by simp, x :: xs, rfl, by simpa using hx, .separator x hx ih.splits⟩
    · rename_i hx
      obtain ⟨hfree, rest, hxs, hend, hrest⟩ := ih
      refine ⟨List.forall_mem_cons.2 ⟨by simpa using hx, hfree⟩, rest, ?_, hend, hrest⟩
      exact congrArg (x :: ·) hxs

lemma splits_words (p : α → Bool) (xs : List α) : Splits p xs (words p xs) :=
  (leads_splitWords p xs).splits

section Splits

variable {ws : List (List α)} (h : Splits p xs ws)

include h

lemma Splits.forall_mem : ∀ w ∈ ws, w ≠ [] ∧ ∀ x ∈ w, p x = false := by
  induction h with
  | nil => simp
  | separator x hx h ih => exact ih
  | word w hne hw hend h ih => exact List.forall_mem_cons.2 ⟨⟨hne, hw⟩, ih⟩

/-- The words hold all but the separators, in the same order. -/
lemma Splits.flatten : ws.flatten = xs.filter fun x => !p x := by
  induction h with
  | nil => rfl
  | separator x hx h ih => rw [ih, List.filter_cons_of_neg (by simp [hx])]
  | word w hne hw hend h ih =>
    have hself : (w.filter fun x => !p x) = w := List.filter_eq_self.2 (by simpa using hw)
    rw [List.flatten_cons, List.filter_append, ih, hself]

end Splits

end ProverLink.Blank
