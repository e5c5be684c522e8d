/-!
# Lines from chunks

A line buffer takes text in chunks and gives it back in lines. What follows the last line break
waits for the next chunk.
-/

namespace ProverLink

/-- The text behind the last line break so far. -/
structure LineBuffer where
  pending : List Char := []
deriving DecidableEq

namespace LineBuffer

/-- The lines that end inside a text, and what follows the last of them. -/
def split : List Char → List (List Char) × List Char
  | [] => ([], [])
  | c :: rest =>
    let (lines, last) := split rest
    if c = '\n' then ([] :: lines, last)
    else
      match lines with
      | [] => ([], c :: last)
      | l :: ls => ((c :: l) :: ls, last)

/-- No character is lost: the lines with their breaks, and what follows them, are the text. -/
theorem flatMap_split (cs : List Char) :
    (split cs).1.flatMap (· ++ ['\n']) ++ (split cs).2 = cs := by
  induction cs with
  | nil => rfl
  | cons c rest ih =>
    rw [split]
    by_cases hc : c = '\n'
    · simp [hc, ih]
    · rcases h : split rest with ⟨lines, last⟩
      rw [h] at ih
      cases lines with
      | nil => simpa [hc] using ih
      | cons l ls => simpa [hc] using ih

theorem newline_notMem_split (cs : List Char) :
    '\n' ∉ (split cs).2 ∧ ∀ l ∈ (split cs).1, '\n' ∉ l := by
  induction cs with
  | nil => simp [split]
  | cons c rest ih =>
    rw [split]
    by_cases hc : c = '\n'
    · simpa [hc] using ih
    · rcases h : split rest with ⟨lines, last⟩
      rw [h] at ih
      cases lines with
      | nil => simpa [hc, Ne.symm hc] using ih
      | cons l ls => simpa [hc, Ne.symm hc] using ih

/-- The lines that a chunk completes. -/
def feed (b : LineBuffer) (chunk : List Char) : List (List Char) × LineBuffer :=
  let (lines, last) := split (b.pending ++ chunk)
  (lines, { pending := last })

/-- What is pending, as a last line. -/
def flush (b : LineBuffer) : List (List Char) × LineBuffer :=
  (if b.pending.isEmpty then [] else [b.pending], {})

end LineBuffer

end ProverLink
