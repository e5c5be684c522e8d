import ProverLink.Proofs.Dispatch
import ProverLink.Proofs.Lines
import ProverLink.Proofs.Positions

/-!
# Lines that break off

A line that is no JSON, or JSON of no known shape, costs nothing but itself. Three kinds of lines
break off: those with an integer of too many digits, those whose values are nested too deeply, and
those that name a place which no editor has, unless they belong to a superseded check. Such a line
leaves nothing behind, but the lines behind it in the same chunk are lost with it.
-/

namespace ProverLink

/-- Whether a message names a place that no editor has and would have to show it. -/
def Message.IsMisplaced (m : Message) : Prop :=
  match m.body with
  | .progress p => p.stage = some Session.fragmentOk ∧ ∃ r, p.range = some r ∧ ¬r.InRange
  | .failure (.complaints entries) => ∃ c ∈ entries, ¬c.InRange
  | _ => False

namespace Session

/-- Whether acting upon a line after a given check breaks off. -/
def BreaksOff [Limits] (check : Int) (line : List Char) : Prop :=
  Blank.allBlank line = false ∧
    match Message.parse line with
    | .ok m => m.precedes check = false ∧ m.IsMisplaced
    | .error (.tooManyDigits _) => True
    | .error (.tooDeep _) => True
    | .error (.malformed ..) => False

/-- Acts upon lines each by itself: a fault costs only the line that has it. -/
def dispatchEach [Limits] : List (List Char) → Act Session (List Message)
  | [] => pure []
  | line :: rest => do
    let m ← (dispatchLine line).attempt
    let ms ← dispatchEach rest
    pure ((m.toOption.getD none).toList ++ ms)

/-! ### Which lines break off -/

lemma finding_progress_eq_error_iff (p : Progress) :
    (∃ f, p.finding = .error f) ↔
      p.stage = some fragmentOk ∧ ∃ r, p.range = some r ∧ ¬r.InRange := by
  rw [Progress.finding]
  cases hr : p.range with
  | none => simp
  | some r =>
    by_cases hs : p.stage = some fragmentOk
    · simp only [hs, if_true, true_and, Option.some.injEq, exists_eq_left']
      by_cases hin : r.InRange
      · simp [hin, Range.ofCoordinates_of_inRange hin.1 hin.2, Except.map]
      · obtain ⟨f, hf⟩ := Range.ofCoordinates_eq_error hin
        simp [hin, hf, Except.map]
    · simp [hs]

lemma finding_complaints_eq_error_iff (entries : List Complaint) :
    (∃ f, (Answer.complaints entries).finding = .error f) ↔ ∃ c ∈ entries, ¬c.InRange := by
  rw [Answer.finding]
  by_cases hout : ∃ c ∈ entries, ¬c.InRange
  · obtain ⟨f, hf⟩ := Diagnostic.mapM_ofComplaint_eq_error hout
    simp only [hout, iff_true]
    exact ⟨f, by rw [hf]; rfl⟩
  · obtain ⟨ds, hds⟩ := Diagnostic.mapM_ofComplaint_of_inRange fun c hc => by
      by_contra h
      exact hout ⟨c, hc, h⟩
    simp [hout, hds, Except.map]

lemma finding_message_eq_error_iff (check : Int) (m : Message) :
    (∃ f, m.finding check = .error f) ↔ m.precedes check = false ∧ m.IsMisplaced := by
  rw [Message.finding, Message.IsMisplaced]
  cases m.precedes check with
  | true => simp
  | false =>
    simp only [Bool.false_eq_true, if_false, true_and]
    cases m.body with
    | progress p => exact finding_progress_eq_error_iff p
    | failure answer =>
      cases answer with
      | empty => simp [Answer.finding]
      | rejection reason => simp [Answer.finding]
      | complaints entries => exact finding_complaints_eq_error_iff entries
    | protocolInfo version features => simp
    | success response => simp
    | unhandled kind reason => simp

section Lines

variable [Limits]

lemma finding_eq_error_iff (check : Int) (line : List Char) :
    (∃ f, finding check line = .error f) ↔ BreaksOff check line := by
  rw [finding, BreaksOff]
  cases hb : Blank.allBlank line with
  | true => simp
  | false =>
    simp only [Bool.false_eq_true, if_false, true_and]
    cases Message.parse line with
    | ok m => exact finding_message_eq_error_iff check m
    | error e => cases e <;> simp

lemma exists_finding_of_not_breaksOff {check : Int} {line : List Char}
    (h : ¬BreaksOff check line) : ∃ g, finding check line = .ok g := by
  cases hf : finding check line with
  | error f => exact absurd ((finding_eq_error_iff check line).1 ⟨f, hf⟩) h
  | ok g => exact ⟨g, rfl⟩

/-! ### Lines each by itself -/

/-- Where no line breaks off, it makes no difference whether faults are passed over. -/
lemma run_dispatchEach {lines : List (List Char)} {s : Session}
    (h : ∀ line ∈ lines, ¬BreaksOff s.checkQuery line) :
    (dispatchEach lines).run s = (dispatchLines lines).run s := by
  induction lines generalizing s with
  | nil => rfl
  | cons line rest ih =>
    obtain ⟨g, hg⟩ := exists_finding_of_not_breaksOff (h line List.mem_cons_self)
    have hrest : ∀ l ∈ rest, ¬BreaksOff ((dispatchLine line).run s).state.checkQuery l := by
      intro l hl
      rw [checkQuery_dispatchLine]
      exact h l (List.mem_cons_of_mem line hl)
    rw [run_dispatchLines_cons_ok hg, dispatchEach, Act.run_attempt_bind, result_dispatchLine, hg,
      bind_pure_comp, Act.run_map, ih hrest]
    rfl

/-- The first line that breaks off ends the dispatch. -/
lemma run_dispatchLines_breaksOff {before : List (List Char)} {bad : List Char} {s : Session}
    (hbefore : ∀ line ∈ before, ¬BreaksOff s.checkQuery line) {f : Fault}
    (hbad : finding s.checkQuery bad = .error f) (behind : List (List Char)) :
    (dispatchLines (before ++ bad :: behind)).run s
      = { (dispatchEach before).run s with result := .error f } := by
  have hresult := result_dispatchLines fun line hl =>
    exists_finding_of_not_breaksOff (hbefore line hl)
  have hf : finding ((dispatchLines before).run s).state.checkQuery bad = .error f := by
    rw [checkQuery_dispatchLines]
    exact hbad
  rw [dispatchLines_append, Act.run_bind_ok _ _ _ hresult, bind_pure_comp, Act.run_map,
    run_dispatchLines_cons_error hf, run_dispatchEach hbefore]
  simp [Except.map]

/-- Where the dispatch does not break off, no line does. -/
lemma not_breaksOff_of_ok {lines : List (List Char)} {s : Session} {ms : List Message}
    (h : ((dispatchLines lines).run s).result = .ok ms) :
    ∀ line ∈ lines, ¬BreaksOff s.checkQuery line := by
  induction lines generalizing s ms with
  | nil => simp
  | cons line rest ih =>
    cases hf : finding s.checkQuery line with
    | error f =>
      rw [run_dispatchLines_cons_error hf] at h
      cases h
    | ok g =>
      rw [run_dispatchLines_cons_ok hf] at h
      cases hr : ((dispatchLines rest).run ((dispatchLine line).run s).state).result with
      | error f => simp [hr, Except.map] at h
      | ok ns =>
        have hrest := ih hr
        rw [checkQuery_dispatchLine] at hrest
        refine List.forall_mem_cons.2 ⟨fun hbad => ?_, hrest⟩
        obtain ⟨f, hf'⟩ := (finding_eq_error_iff s.checkQuery line).2 hbad
        rw [hf] at hf'
        cases hf'

lemma commutes_dispatchEach (b : LineBuffer) (lines : List (List Char)) :
    Act.Commutes (withLines b) (dispatchEach lines) := by
  induction lines with
  | nil => exact .pure _
  | cons line rest ih =>
    exact .bind (commutes_dispatchLine b line).attempt fun _ => .bind ih fun _ => .pure _

/-! ### One chunk -/

/-- A chunk does what its lines do each by itself exactly if none of them breaks off. The first one
that does ends the dispatch with its fault: what the lines before it did stays, and the lines behind
it are lost. -/
theorem feed_eq_dispatchEach_iff (s : Session) (chunk : List Char) :
    let lines := (s.lines.feed chunk).1
    let t := { s with lines := (s.lines.feed chunk).2 }
    let fed := (feed chunk).run s
    let each := (dispatchEach lines).run t
    ((∃ ms, fed.result = .ok ms) ∧ events fed.trace = events each.trace ∧
        fed.state.diagnostics = each.state.diagnostics ↔
      ∀ line ∈ lines, ¬BreaksOff s.checkQuery line) ∧
    ((∀ line ∈ lines, ¬BreaksOff s.checkQuery line) → fed = each) ∧
    ∀ before bad behind, lines = before ++ bad :: behind →
      (∀ line ∈ before, ¬BreaksOff s.checkQuery line) → BreaksOff s.checkQuery bad →
        ∃ f, ((dispatchLine bad).run t).result = .error f ∧
          fed = { (dispatchEach before).run t with result := .error f } := by
  intro lines t fed each
  have hfed : fed = { (dispatchLines lines).run s with
      state := withLines (s.lines.feed chunk).2 ((dispatchLines lines).run s).state } :=
    run_feed chunk s
  have heach : ∀ ls, (dispatchEach ls).run t = { (dispatchEach ls).run s with
      state := withLines (s.lines.feed chunk).2 ((dispatchEach ls).run s).state } := fun ls =>
    commutes_dispatchEach (s.lines.feed chunk).2 ls s
  have hall : (∀ line ∈ lines, ¬BreaksOff s.checkQuery line) → fed = each := by
    intro h
    rw [hfed, show each = _ from heach lines, run_dispatchEach h]
  have hfirst : ∀ before bad behind, lines = before ++ bad :: behind →
      (∀ line ∈ before, ¬BreaksOff s.checkQuery line) → BreaksOff s.checkQuery bad →
        ∃ f, ((dispatchLine bad).run t).result = .error f ∧
          fed = { (dispatchEach before).run t with result := .error f } := by
    intro before bad behind hlines hbefore hbad
    obtain ⟨f, hf⟩ := (finding_eq_error_iff s.checkQuery bad).2 hbad
    refine ⟨f, ?_, ?_⟩
    · have ht : t.checkQuery = s.checkQuery := rfl
      rw [result_dispatchLine, ht, hf]
      rfl
    · rw [hfed, hlines, run_dispatchLines_breaksOff hbefore hf, heach before]
  refine ⟨⟨?_, fun h => ?_⟩, hall, hfirst⟩
  · rintro ⟨⟨ms, hms⟩, -⟩
    rw [hfed] at hms
    exact not_breaksOff_of_ok hms
  · have hresult : ∃ ms, fed.result = .ok ms := by
      rw [hfed]
      exact ⟨_, result_dispatchLines fun line hl => exists_finding_of_not_breaksOff (h line hl)⟩
    exact ⟨hresult, by rw [hall h], by rw [hall h]⟩

end Lines

/-- A report that a stretch is checked which starts in the given line and ends in the first one. -/
def fragmentReport (line : Char) : List Char :=
  ("\x7b\"kind\":\"message\",\"level\":\"progress\",\"contents\":" ++
    "\x7b\"stage\":\"full-buffer-fragment-ok\",\"ranges\":\x7b\"beg\":[").toList ++
  line :: ",0],\"end\":[1,0]\x7d\x7d\x7d".toList

lemma exists_fault_fragmentReport : ∃ f, finding 0 (fragmentReport '0') = .error f := by
  have hfault : (finding 0 (fragmentReport '0')).isOk = false := by decide +kernel
  cases hf : finding 0 (fragmentReport '0') with
  | error f => exact ⟨f, rfl⟩
  | ok g => simp [hf, Except.isOk, Except.toBool] at hfault

lemma feed_fragmentReports :
    LineBuffer.feed {} ([fragmentReport '0', fragmentReport '1'].flatMap (· ++ ['\n']))
      = ([fragmentReport '0', fragmentReport '1'], {}) := by
  have hnone : ∀ l ∈ [fragmentReport '0', fragmentReport '1'], '\n' ∉ l := by decide +kernel
  exact LineBuffer.feed_flatMap_newline hnone

lemma run_feed_fragmentReports {s : Session} (hlines : s.lines = {}) (hcheck : s.checkQuery = 0) :
    ∃ f, (feed ([fragmentReport '0', fragmentReport '1'].flatMap (· ++ ['\n']))).run s
      = { result := .error f, state := s } := by
  obtain ⟨f, hf⟩ := exists_fault_fragmentReport
  rw [← hcheck] at hf
  refine ⟨f, ?_⟩
  rw [run_feed, hlines, feed_fragmentReports, run_dispatchLines_cons_error hf, ← hlines]
  rfl

/-- The checker counts lines from one. A report about line zero takes the report behind it along. -/
theorem misplaced_report_costs_its_neighbour :
    let s : Session := { uri := "file:///a.fst" }
    let lines := [fragmentReport '0', fragmentReport '1']
    let fed := (feed (lines.flatMap (· ++ ['\n']))).run s
    fed.result.isOk = false ∧ events fed.trace = [] ∧
      events ((dispatchEach lines).run s).trace = [.statusOk s.uri [.documentStart]] := by
  intro s lines fed
  obtain ⟨f, hfed⟩ : ∃ f, fed = { result := .error f, state := s } :=
    run_feed_fragmentReports rfl rfl
  rw [hfed]
  refine ⟨rfl, rfl, ?_⟩
  decide +kernel

/-- Of two reports the first, which is misplaced, is all that is acted upon. -/
theorem feed_of_misplaced_report :
    let s : Session := { uri := "file:///a.fst" }
    BreaksOff s.checkQuery (fragmentReport '0') ∧
      ∃ f, (feed ([fragmentReport '0', fragmentReport '1'].flatMap (· ++ ['\n']))).run s
        = { result := .error f, state := s } := by
  intro s
  have hbad : BreaksOff s.checkQuery (fragmentReport '0') :=
    (finding_eq_error_iff _ _).1 exists_fault_fragmentReport
  obtain ⟨f, -, hfed⟩ := (feed_eq_dispatchEach_iff s _).2.2 [] _ _
    (congrArg Prod.fst feed_fragmentReports) (by simp) hbad
  refine ⟨hbad, f, ?_⟩
  rw [hfed, show s.lines = {} from rfl, feed_fragmentReports]
  rfl

end Session

end ProverLink
