import Mathlib.Data.List.DropRight
import Mathlib.Data.List.Induction
import ProverLink.Proofs.Lines

/-!
# Reassembly

A line buffer is fed chunks and flushed, in any order. A flush ends a round, and the next round
starts with nothing pending. In each round the lines that came out, each with its break, and the
pending text behind them spell what was fed, so that they are the segments between its line breaks
wherever the chunks were cut.
-/

namespace ProverLink.LineBuffer

/-! ### Steps -/

/-- One use of a buffer. -/
inductive Step where
  | feed (chunk : List Char)
  | flush

namespace Step

/-- The lines that a step gives, and the buffer behind it. -/
def run : Step → LineBuffer → List (List Char) × LineBuffer
  | .feed chunk, b => b.feed chunk
  | .flush, b => b.flush

def isFeed : Step → Bool
  | .feed _ => true
  | .flush => false

/-- The text that a step takes in. -/
def text : Step → List Char
  | .feed chunk => chunk
  | .flush => []

/-- The text that lines stand for. A line that a chunk completes had a break, one that is flushed
had none. -/
def spell : Step → List (List Char) → List Char
  | .feed _, lines => lines.flatMap (· ++ ['\n'])
  | .flush, lines => lines.flatten

/-- What was pending and what comes in is given out, or is pending again. -/
lemma pending_append_text (st : Step) (b : LineBuffer) :
    b.pending ++ st.text = st.spell (st.run b).1 ++ (st.run b).2.pending := by
  cases st with
  | feed chunk => exact (flatMap_split (b.pending ++ chunk)).symm
  | flush =>
    simp only [text, spell, run, LineBuffer.flush]
    cases hp : b.pending with
    | nil => rfl
    | cons c rest => simp

lemma newline_notMem_run (st : Step) {b : LineBuffer} (hb : '\n' ∉ b.pending) :
    '\n' ∉ (st.run b).2.pending ∧ ∀ line ∈ (st.run b).1, '\n' ∉ line := by
  cases st with
  | feed chunk => exact newline_notMem_split (b.pending ++ chunk)
  | flush =>
    simp only [run, LineBuffer.flush]
    cases hp : b.pending with
    | nil => simp
    | cons c rest => simpa [hp] using hb

end Step

/-! ### Sequences of steps -/

/-- The buffer after some steps. -/
def after : List Step → LineBuffer → LineBuffer
  | [], b => b
  | st :: rest, b => after rest (st.run b).2

/-- The lines that steps give, one after the other. -/
def given : List Step → LineBuffer → List (List Char)
  | [], _ => []
  | st :: rest, b => (st.run b).1 ++ given rest (st.run b).2

/-- The text that the lines given in some steps stand for. -/
def spelled : List Step → LineBuffer → List Char
  | [], _ => []
  | st :: rest, b => st.spell (st.run b).1 ++ spelled rest (st.run b).2

/-- All chunks, one after the other. -/
def fed (steps : List Step) : List Char := steps.flatMap Step.text

lemma after_append (xs ys : List Step) (b : LineBuffer) :
    after (xs ++ ys) b = after ys (after xs b) := by
  induction xs generalizing b with
  | nil => rfl
  | cons st rest ih => exact ih _

lemma fed_cons (st : Step) (rest : List Step) : fed (st :: rest) = st.text ++ fed rest :=
  List.flatMap_cons

/-- Over any number of steps no character is lost, and all stay in order. -/
lemma pending_append_fed (steps : List Step) (b : LineBuffer) :
    b.pending ++ fed steps = spelled steps b ++ (after steps b).pending := by
  induction steps generalizing b with
  | nil => simp [fed, spelled, after]
  | cons st rest ih =>
    calc b.pending ++ fed (st :: rest)
        = b.pending ++ st.text ++ fed rest := by rw [fed_cons, List.append_assoc]
      _ = st.spell (st.run b).1 ++ ((st.run b).2.pending ++ fed rest) := by
          rw [st.pending_append_text, List.append_assoc]
      _ = spelled (st :: rest) b ++ (after (st :: rest) b).pending := by
          rw [ih, spelled, after, List.append_assoc]

lemma newline_notMem_after (steps : List Step) {b : LineBuffer} (hb : '\n' ∉ b.pending) :
    '\n' ∉ (after steps b).pending ∧ ∀ line ∈ given steps b, '\n' ∉ line := by
  induction steps generalizing b with
  | nil => simpa [after, given] using hb
  | cons st rest ih =>
    obtain ⟨hpending, hfirst⟩ := st.newline_notMem_run hb
    obtain ⟨hafter, hrest⟩ := ih hpending
    refine ⟨hafter, fun line hl => ?_⟩
    rcases List.mem_append.1 hl with hl | hl
    · exact hfirst line hl
    · exact hrest line hl

/-! ### Rounds -/

/-- The steps up to the last flush. -/
def flushed (steps : List Step) : List Step := steps.rdropWhile Step.isFeed

/-- The steps since the last flush, or since the beginning. -/
def recent (steps : List Step) : List Step := steps.rtakeWhile Step.isFeed

lemma isFeed_of_mem_recent {steps : List Step} {st : Step} (h : st ∈ recent steps) :
    st.isFeed = true :=
  List.mem_rtakeWhile_imp h

/-- A round starts with nothing pending. -/
lemma after_flushed (steps : List Step) : after (flushed steps) {} = {} := by
  induction steps using List.reverseRecOn with
  | nil => rfl
  | append_singleton init st ih =>
    cases st with
    | feed chunk =>
      rw [flushed, List.rdropWhile_concat_pos _ _ _ rfl]
      exact ih
    | flush =>
      rw [flushed, List.rdropWhile_concat_neg _ _ _ (by simp [Step.isFeed]), after_append]
      rfl

lemma after_eq_recent (steps : List Step) : after steps {} = after (recent steps) {} := by
  calc after steps {}
      = after (flushed steps ++ recent steps) {} := by
        rw [flushed, recent, List.rdropWhile_append_rtakeWhile]
    _ = after (recent steps) {} := by rw [after_append, after_flushed]

lemma spelled_of_feeds {steps : List Step} (h : ∀ st ∈ steps, st.isFeed = true) (b : LineBuffer) :
    spelled steps b = (given steps b).flatMap (· ++ ['\n']) := by
  induction steps generalizing b with
  | nil => rfl
  | cons st rest ih =>
    rw [List.forall_mem_cons] at h
    cases st with
    | flush => simp [Step.isFeed] at h
    | feed chunk => rw [spelled, given, List.flatMap_append, ih h.2, Step.spell]

/-- Wherever the chunks of a round are cut, the lines and the pending text are the segments of the
whole. -/
lemma given_append_pending {steps : List Step} (h : ∀ st ∈ steps, st.isFeed = true)
    {b : LineBuffer} (hb : '\n' ∉ b.pending) :
    given steps b ++ [(after steps b).pending] = (b.pending ++ fed steps).splitOn '\n' := by
  induction steps generalizing b with
  | nil =>
    rw [splitOn_newline, fed, List.flatMap_nil, List.append_nil, split_of_notMem hb]
    rfl
  | cons st rest ih =>
    rw [List.forall_mem_cons] at h
    cases st with
    | flush => simp [Step.isFeed] at h
    | feed chunk =>
      -- the segments that the chunk completes come first, the others are those of the rest
      have hrest := ih h.2 (b := (b.feed chunk).2) (newline_notMem_rest (b.pending ++ chunk))
      calc given (.feed chunk :: rest) b ++ [(after (.feed chunk :: rest) b).pending]
          = (b.feed chunk).1
              ++ (given rest (b.feed chunk).2 ++ [(after rest (b.feed chunk).2).pending]) :=
            List.append_assoc _ _ _
        _ = (b.feed chunk).1 ++ ((b.feed chunk).2.pending ++ fed rest).splitOn '\n' := by rw [hrest]
        _ = (b.pending ++ chunk ++ fed rest).splitOn '\n' := (splitOn_append _ _).symm
        _ = (b.pending ++ fed (.feed chunk :: rest)).splitOn '\n' := by
            rw [fed_cons, Step.text, List.append_assoc]

lemma fed_recent (steps : List Step) :
    fed (recent steps)
      = (given (recent steps) (after (flushed steps) {})).flatMap (· ++ ['\n'])
          ++ (after steps {}).pending := by
  rw [after_flushed, after_eq_recent, ← spelled_of_feeds fun _ => isFeed_of_mem_recent]
  exact pending_append_fed (recent steps) {}

lemma given_recent (steps : List Step) :
    given (recent steps) (after (flushed steps) {}) ++ [(after steps {}).pending]
      = (fed (recent steps)).splitOn '\n' := by
  rw [after_flushed, after_eq_recent]
  exact given_append_pending (fun _ => isFeed_of_mem_recent) (by simp)

/-- Lines come out of a buffer as they went in. Whatever was done before, neither the pending text
nor any line that was given holds a line break, the chunks since the last flush are the lines given
since then, each with its break, and the pending text, and a flush gives the pending text as a line
unless it is empty. So the lines since the last flush depend on the text since then and not on its
cuts, and over all steps no character is lost, doubled or moved. -/
theorem buffer_gives_lines_of_fed_text (steps : List Step) :
    let b := after steps {}
    let lines := given (recent steps) (after (flushed steps) {})
    '\n' ∉ b.pending ∧
      (∀ line ∈ given steps {}, '\n' ∉ line) ∧
      fed (recent steps) = lines.flatMap (· ++ ['\n']) ++ b.pending ∧
      (b.pending ≠ [] → b.flush.1 = [b.pending]) ∧
      (b.pending = [] → b.flush.1 = []) ∧
      b.flush.2.pending = [] ∧
      (∀ others : List Step, fed (recent others) = fed (recent steps) →
        given (recent others) (after (flushed others) {}) = lines ∧ after others {} = b) ∧
      fed steps = spelled steps {} ++ b.pending := by
  intro b lines
  obtain ⟨hpending, hgiven⟩ := @newline_notMem_after steps {} (by simp)
  refine ⟨hpending, hgiven, fed_recent steps, ?_, ?_, rfl, ?_, pending_append_fed steps {}⟩
  · intro hne
    simp [LineBuffer.flush, hne]
  · intro hnone
    simp [LineBuffer.flush, hnone]
  · intro others hfed
    -- lines and pending text are the segments of a text that the two runs share
    have hsame := given_recent others
    rw [hfed, ← given_recent steps] at hsame
    obtain ⟨hlines, hrest⟩ := List.append_inj' hsame rfl
    refine ⟨hlines, ?_⟩
    rw [LineBuffer.mk.injEq]
    exact List.singleton_inj.1 hrest

/-- One text in two cuttings, in one of them behind a text that was flushed. -/
theorem buffer_gives_lines_of_text_cut_twice :
    let one : List Step :=
      [.feed ['x', '\n', 'y'], .flush, .feed ['a', '\n', '\n'], .feed [], .feed ['b', '\n', 'c']]
    let other : List Step := [.feed ['a'], .feed ['\n', '\n', 'b', '\n'], .feed ['c']]
    fed (recent other) = fed (recent one) ∧
      given (recent other) (after (flushed other) {})
        = given (recent one) (after (flushed one) {}) ∧
      after other {} = after one {} := by
  intro one other
  have hfed : fed (recent other) = fed (recent one) := by decide
  exact ⟨hfed, (buffer_gives_lines_of_fed_text one).2.2.2.2.2.2.1 other hfed⟩

end ProverLink.LineBuffer
