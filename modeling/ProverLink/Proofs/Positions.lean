import Mathlib.Tactic.Common
import ProverLink.Editor.Event

/-!
# Coordinates that are positions

Which coordinates of the checker have a position in an editor, and which complaints can therefore be
shown. A complaint is judged by its first range alone.
-/

namespace ProverLink

/-- Whether an editor has the position: lines count from one there and from zero here, and both
numbers have 31 bits here. -/
def Coordinate.InRange (c : Coordinate) : Prop :=
  1 ≤ c.line ∧ c.line ≤ 2147483648 ∧ 0 ≤ c.column ∧ c.column ≤ 2147483647

/-- Whether an editor has both ends of a range. -/
def SourceRange.InRange (r : SourceRange) : Prop := r.start.InRange ∧ r.stop.InRange

/-- Whether an editor has the place at which a complaint is shown. -/
def Complaint.InRange (c : Complaint) : Prop := ∀ r, c.ranges.head? = some r → r.InRange

namespace Position

lemma checked_of_le {name : String} {v : Int} (h₀ : 0 ≤ v) (h₁ : v ≤ 2147483647) :
    checked name v = .ok v.toNat := by
  rw [checked, if_pos]
  simp only [Bool.and_eq_true, decide_eq_true_eq]
  exact ⟨h₀, h₁⟩

lemma checked_eq_error {name : String} {v : Int} (h : ¬(0 ≤ v ∧ v ≤ 2147483647)) :
    ∃ f, checked name v = .error f := by
  have hv : ¬((0 ≤ v && v ≤ (limit : Int)) = true) := by
    simp only [Bool.and_eq_true, decide_eq_true_eq]
    exact h
  rw [checked, if_neg hv]
  by_cases hl : Decimal.isTooLong v = true
  · exact ⟨_, by rw [if_pos hl]⟩
  · exact ⟨_, by rw [if_neg hl]⟩

/-- A coordinate in range has the position one line up and in the same column. -/
lemma ofCoordinate_of_inRange {c : Coordinate} (h : c.InRange) :
    ofCoordinate c = .ok { line := (c.line - 1).toNat, character := c.column.toNat } := by
  obtain ⟨h₁, h₂, h₃, h₄⟩ := h
  rw [ofCoordinate, checked_of_le (by omega) (by omega), checked_of_le h₃ h₄]
  rfl

lemma ofCoordinate_eq_error {c : Coordinate} (h : ¬c.InRange) : ∃ f, ofCoordinate c = .error f := by
  rw [ofCoordinate]
  by_cases hl : 0 ≤ c.line - 1 ∧ c.line - 1 ≤ 2147483647
  · rw [checked_of_le hl.1 hl.2]
    have hc : ¬(0 ≤ c.column ∧ c.column ≤ 2147483647) := by
      intro hc
      exact h ⟨by omega, by omega, hc.1, hc.2⟩
    obtain ⟨f, hf⟩ := @checked_eq_error "Position.character" c.column hc
    exact ⟨f, by rw [hf]; rfl⟩
  · obtain ⟨f, hf⟩ := @checked_eq_error "Position.line" (c.line - 1) hl
    exact ⟨f, by rw [hf]; rfl⟩

end Position

namespace Range

lemma ofCoordinates_of_inRange {a b : Coordinate} (ha : a.InRange) (hb : b.InRange) :
    ofCoordinates a b
      = .ok { start := { line := (a.line - 1).toNat, character := a.column.toNat },
              stop := { line := (b.line - 1).toNat, character := b.column.toNat } } := by
  rw [ofCoordinates, Position.ofCoordinate_of_inRange ha, Position.ofCoordinate_of_inRange hb]
  rfl

lemma ofCoordinates_eq_error {a b : Coordinate} (h : ¬(a.InRange ∧ b.InRange)) :
    ∃ f, ofCoordinates a b = .error f := by
  rw [ofCoordinates]
  by_cases ha : a.InRange
  · obtain ⟨f, hf⟩ := Position.ofCoordinate_eq_error fun hb => h ⟨ha, hb⟩
    exact ⟨f, by rw [Position.ofCoordinate_of_inRange ha, hf]; rfl⟩
  · obtain ⟨f, hf⟩ := Position.ofCoordinate_eq_error ha
    exact ⟨f, by rw [hf]; rfl⟩

end Range

namespace Diagnostic

lemma ofComplaint_of_inRange {c : Complaint} (h : c.InRange) : ∃ d, ofComplaint c = .ok d := by
  rw [ofComplaint]
  cases hr : c.ranges with
  | nil => exact ⟨_, rfl⟩
  | cons r rest =>
    have hin := h r (by rw [hr]; rfl)
    exact ⟨_, by simp only [Range.ofCoordinates_of_inRange hin.1 hin.2]; rfl⟩

lemma ofComplaint_eq_error {c : Complaint} (h : ¬c.InRange) : ∃ f, ofComplaint c = .error f := by
  rw [ofComplaint]
  cases hr : c.ranges with
  | nil => exact absurd (fun r hn => by simp [hr] at hn) h
  | cons r rest =>
    have hout : ¬(r.start.InRange ∧ r.stop.InRange) := by
      intro hin
      refine h fun r' hr' => ?_
      rw [hr] at hr'
      cases hr'
      exact hin
    obtain ⟨f, hf⟩ := Range.ofCoordinates_eq_error hout
    exact ⟨f, by simp only [hf]; rfl⟩

/-- All complaints can be shown. -/
lemma mapM_ofComplaint_of_inRange {entries : List Complaint} (h : ∀ c ∈ entries, c.InRange) :
    ∃ ds, entries.mapM ofComplaint = .ok ds := by
  induction entries with
  | nil => exact ⟨[], rfl⟩
  | cons c rest ih =>
    obtain ⟨d, hd⟩ := ofComplaint_of_inRange (h c List.mem_cons_self)
    obtain ⟨ds, hds⟩ := ih fun c' hc' => h c' (List.mem_cons_of_mem c hc')
    exact ⟨d :: ds, by rw [List.mapM_cons, hd, hds]; rfl⟩

/-- One complaint that cannot be shown is enough. -/
lemma mapM_ofComplaint_eq_error {entries : List Complaint} (h : ∃ c ∈ entries, ¬c.InRange) :
    ∃ f, entries.mapM ofComplaint = .error f := by
  induction entries with
  | nil => simp at h
  | cons c rest ih =>
    rw [List.mapM_cons]
    by_cases hc : c.InRange
    · obtain ⟨d, hd⟩ := ofComplaint_of_inRange hc
      obtain ⟨c', hmem, hout⟩ := h
      rcases List.mem_cons.1 hmem with rfl | hrest
      · exact absurd hc hout
      · obtain ⟨f, hf⟩ := ih ⟨c', hrest, hout⟩
        exact ⟨f, by rw [hd, hf]; rfl⟩
    · obtain ⟨f, hf⟩ := ofComplaint_eq_error hc
      exact ⟨f, by rw [hf]; rfl⟩

end Diagnostic

end ProverLink
