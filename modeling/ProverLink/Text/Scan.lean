/-!
# Scanning characters

What the readers of the two data formats share: taking a literal off the head of the characters, and
the line and column of a place.
-/

namespace ProverLink.Scan

/-- What stands behind a literal, if the characters start with it. -/
def after? : List Char → List Char → Option (List Char)
  | [], cs => some cs
  | _ :: _, [] => none
  | w :: ws, c :: cs => if w = c then after? ws cs else none

/-- Line and column, counted from one, of the place behind some characters. -/
def lineAndColumn (before : List Char) : Nat × Nat :=
  (before.count '\n' + 1, (before.reverse.takeWhile (· ≠ '\n')).length + 1)

theorem after?_append (w cs : List Char) : after? w (w ++ cs) = some cs := by
  induction w with
  | nil => rfl
  | cons c w ih => simp [after?, ih]

end ProverLink.Scan
