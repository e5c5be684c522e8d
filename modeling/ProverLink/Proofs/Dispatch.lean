import ProverLink.Proofs.Acts
import ProverLink.Session.Dispatch

/-!
# What a line does

Acting upon a line comes down to what the line yields: nothing, a stretch that is checked, or
diagnostics. What it yields depends on the number of the last check and on nothing else of the
session. It decides which fault there is, what is added to the diagnostics, and what the editor
is told.
-/

namespace ProverLink

/-- What a line tells about a document. -/
inductive Finding where
  | nothing
  | checked (range : Range)
  | errors (diagnostics : List Diagnostic)

namespace Finding

/-- The diagnostics that are added. -/
def diagnostics : Finding → List Diagnostic
  | .errors ds => ds
  | _ => []

/-- What the editor is told, if it shows some diagnostics already. -/
def events (uri : String) (shown : List Diagnostic) : Finding → List EditorEvent
  | .nothing => []
  | .checked range => [.statusOk uri [range]]
  | .errors [] => []
  | .errors (d :: ds) => [.publish uri (shown ++ d :: ds)]

end Finding

/-! ### What messages yield -/

/-- What a report about progress yields. -/
def Progress.finding (p : Progress) : Except Fault Finding :=
  match p.range with
  | none => .ok .nothing
  | some r =>
    if p.stage = some Session.fragmentOk then
      (Range.ofCoordinates r.start r.stop).map Finding.checked
    else .ok .nothing

/-- What the answer to a failed query yields. -/
def Answer.finding : Answer → Except Fault Finding
  | .complaints entries => (entries.mapM Diagnostic.ofComplaint).map Finding.errors
  | _ => .ok .nothing

namespace Message

/-- Whether a message belongs to a query before a given one, as far as its number is known. -/
def precedes (m : Message) (check : Int) : Bool := m.queryNumber.any (· < check)

/-- What a message yields after a given check. -/
def finding (check : Int) (m : Message) : Except Fault Finding :=
  if m.precedes check then .ok .nothing
  else
    match m.body with
    | .progress p => p.finding
    | .failure answer => answer.finding
    | _ => .ok .nothing

/-- The message in a line, if there is one. -/
def ofLine? [Limits] (line : List Char) : Option Message :=
  if Blank.allBlank line then none else (parse line).toOption

end Message

namespace Session

/-- What a line yields after a given check, or the fault that it is. -/
def finding [Limits] (check : Int) (line : List Char) : Except Fault Finding :=
  if Blank.allBlank line then .ok .nothing
  else
    match Message.parse line with
    | .ok m => m.finding check
    | .error (.tooManyDigits count) => .error (.tooManyDigits (some count))
    | .error (.tooDeep n) => .error (.tooDeep n)
    | .error (.malformed ..) => .ok .nothing

/-- What is left of a line if its fault is passed over. -/
def yield [Limits] (check : Int) (line : List Char) : Finding :=
  (finding check line).toOption.getD .nothing

/-! ### One line -/

/-- An act ends as a finding says: it changes the diagnostics and nothing else, it tells the editor
what there is to tell, and it breaks off if and only if there is a fault, before it has left any
trace. -/
structure Reacts {α : Type} (s : Session) (f : Except Fault Finding) (o : Outcome Session α) :
    Prop where
  result : o.result.map (fun _ => ()) = f.map fun _ => ()
  state : o.state
    = { s with diagnostics := s.diagnostics ++ (f.toOption.getD .nothing).diagnostics }
  visible : visible o.trace = ((f.toOption.getD .nothing).events s.uri s.diagnostics).map .event
  silent : ∀ e, f = .error e → o.trace = []

lemma reacts_nothing {α : Type} (s : Session) (a : α) {trace : List Effect}
    (h : ProverLink.visible trace = []) :
    Reacts s (.ok .nothing) { result := .ok a, state := s, trace } where
  result := rfl
  state := by simp [Except.toOption, Finding.diagnostics]
  visible := by simpa [Except.toOption, Finding.events] using h
  silent := nofun

lemma reacts_fault {α : Type} (s : Session) (f : Fault) :
    Reacts s (.error f) ({ result := .error f, state := s } : Outcome Session α) where
  result := rfl
  state := by simp [Except.toOption, Finding.diagnostics]
  visible := by simp [Except.toOption, Finding.events]
  silent := fun _ _ => rfl

lemma isSuperseded_queryNumber (s : Session) (m : Message) :
    s.isSuperseded m.queryNumber = m.precedes s.checkQuery := by
  rw [Message.precedes]
  cases m.queryNumber <;> simp [isSuperseded]

lemma run_isStale_of_precedes (kind : String) {m : Message} {s : Session}
    (h : m.precedes s.checkQuery = true) :
    ∃ n, (isStale kind m).run s
      = { result := .ok true, state := s, trace := [.notice (.superseded kind n)] } := by
  rw [← isSuperseded_queryNumber] at h
  cases hn : m.queryNumber with
  | none => simp [hn, isSuperseded] at h
  | some n =>
    rw [hn] at h
    exact ⟨n, by simp [isStale, hn, h, Except.map]⟩

lemma run_isStale_of_not_precedes (kind : String) {m : Message} {s : Session}
    (h : m.precedes s.checkQuery = false) :
    (isStale kind m).run s = { result := .ok false, state := s } := by
  rw [← isSuperseded_queryNumber] at h
  cases hn : m.queryNumber with
  | none => simp [isStale, hn, Except.map]
  | some n =>
    rw [hn] at h
    simp [isStale, hn, h]

lemma reacts_progress (p : Progress) (s : Session) :
    Reacts s p.finding ((progress p).run s) := by
  rw [progress, Progress.finding]
  cases hr : p.range with
  | none => exact reacts_nothing s none rfl
  | some r =>
    by_cases hs : p.stage = some fragmentOk
    · simp only [hs, if_true, Act.run_get_bind]
      cases hc : Range.ofCoordinates r.start r.stop with
      | error f => exact reacts_fault s f
      | ok range =>
        exact ⟨rfl, by simp [Act.run_bind_ok, Except.map, Except.toOption, Finding.diagnostics],
          by simp [Act.run_bind_ok, Except.map, Except.toOption, Finding.events], nofun⟩
    · simp only [hs, if_false]
      exact reacts_nothing s none rfl

lemma reacts_failure (entries : List Complaint) (s : Session) :
    Reacts s (Answer.complaints entries).finding ((failure entries).run s) := by
  rw [failure, Answer.finding]
  cases hb : entries.mapM Diagnostic.ofComplaint with
  | error f => exact reacts_fault s f
  | ok batch =>
    cases batch with
    | nil =>
      exact ⟨rfl, by simp [Act.run_bind_ok, Except.map, Except.toOption, Finding.diagnostics],
        by simp [Act.run_bind_ok, Except.map, Except.toOption, Finding.events], nofun⟩
    | cons d ds =>
      exact ⟨rfl, by simp [Act.run_bind_ok, Except.map, Except.toOption, Finding.diagnostics],
        by simp [Act.run_bind_ok, Except.map, Except.toOption, Finding.events], nofun⟩

/-- A reaction does not depend on the value that an act ends with. -/
lemma Reacts.bind_pure {α β : Type} {s : Session} {f : Except Fault Finding} {act : Act Session α}
    (h : Reacts s f (act.run s)) (g : α → β) :
    Reacts s f ((act >>= fun a => pure (g a)).run s) := by
  cases hr : (act.run s).result with
  | error e =>
    rw [Act.run_bind_error act _ s hr]
    exact ⟨by rw [← h.result, hr]; rfl, h.state, h.visible, h.silent⟩
  | ok a =>
    rw [Act.run_bind_ok act _ s hr]
    exact ⟨by rw [← h.result, hr]; rfl, h.state, by simpa using h.visible,
      by simpa using h.silent⟩

lemma Reacts.result_bind_pure {α β : Type} {s : Session} {f : Except Fault Finding}
    {act : Act Session α} (h : Reacts s f (act.run s)) (b : β) :
    ((act >>= fun _ => pure b).run s).result = f.map fun _ => b := by
  have hf := h.result
  cases hr : (act.run s).result with
  | error e =>
    rw [Act.run_bind_error act _ s hr]
    cases f with
    | error e' => simpa [hr, Except.map] using hf
    | ok g => simp [hr, Except.map] at hf
  | ok a =>
    rw [Act.run_bind_ok act _ s hr]
    cases f with
    | error e' => simp [hr, Except.map] at hf
    | ok g => rfl

lemma reacts_failed (answer : Answer) (s : Session) :
    Reacts s answer.finding ((failed answer).run s) := by
  cases answer with
  | empty => exact reacts_nothing s () rfl
  | rejection reason => exact reacts_nothing s () rfl
  | complaints entries => exact (reacts_failure entries s).bind_pure fun _ => ()

/-- Messages of a superseded check are passed over; all others do what their body says. -/
lemma reacts_unless_stale {s : Session} {m : Message} (kind : String) {act : Act Session Unit}
    {f : Except Fault Finding} (h : Reacts s f (act.run s)) :
    Reacts s (if m.precedes s.checkQuery then .ok .nothing else f)
      ((isStale kind m >>= fun stale => if stale then pure () else act).run s) := by
  cases hp : m.precedes s.checkQuery with
  | true =>
    obtain ⟨n, hn⟩ := run_isStale_of_precedes kind hp
    rw [Act.run_bind_ok (a := true) _ _ _ (by rw [hn]), hn]
    exact reacts_nothing s () rfl
  | false =>
    have hn := run_isStale_of_not_precedes kind hp
    rw [Act.run_bind_ok (a := false) _ _ _ (by rw [hn]), hn]
    exact h

lemma reacts_route (m : Message) (s : Session) :
    Reacts s (m.finding s.checkQuery) ((route m).run s) := by
  rw [route, Act.run_get_bind, Message.finding]
  cases m.body with
  | protocolInfo version features =>
    rw [ite_self]
    exact reacts_nothing s () rfl
  | success response =>
    rw [ite_self]
    exact reacts_nothing s () rfl
  | unhandled kind reason =>
    rw [ite_self]
    exact reacts_nothing s () rfl
  | progress p =>
    exact reacts_unless_stale "message" ((reacts_progress p s).bind_pure fun _ => ())
  | failure answer => exact reacts_unless_stale "response" (reacts_failed answer s)

section Lines

variable [Limits]

lemma reacts_dispatchLine (line : List Char) (s : Session) :
    Reacts s (finding s.checkQuery line) ((dispatchLine line).run s) := by
  rw [dispatchLine, finding]
  by_cases hb : Blank.allBlank line = true
  · rw [if_pos hb, if_pos hb]
    exact reacts_nothing s none rfl
  · rw [if_neg hb, if_neg hb]
    cases hm : Message.parse line with
    | ok m => exact (reacts_route m s).bind_pure fun _ => some m
    | error e =>
      cases e with
      | malformed p l column offset => exact reacts_nothing s none rfl
      | tooManyDigits count => exact reacts_fault s _
      | tooDeep n => exact reacts_fault s _

/-- A line that is no fault gives its message. -/
lemma result_dispatchLine (line : List Char) (s : Session) :
    ((dispatchLine line).run s).result
      = (finding s.checkQuery line).map fun _ => Message.ofLine? line := by
  rw [dispatchLine, finding, Message.ofLine?]
  by_cases hb : Blank.allBlank line = true
  · rw [if_pos hb, if_pos hb, if_pos hb]
    rfl
  · rw [if_neg hb, if_neg hb, if_neg hb]
    cases hm : Message.parse line with
    | error e => cases e <;> rfl
    | ok m => exact (reacts_route m s).result_bind_pure (some m)

@[simp] lemma checkQuery_dispatchLine (line : List Char) (s : Session) :
    ((dispatchLine line).run s).state.checkQuery = s.checkQuery := by
  rw [(reacts_dispatchLine line s).state]

/-! ### Many lines -/

@[simp] lemma run_dispatchLines_nil (s : Session) :
    (dispatchLines []).run s = { result := .ok [], state := s } := rfl

/-- Lines one after the other. -/
lemma dispatchLines_append (xs ys : List (List Char)) :
    dispatchLines (xs ++ ys)
      = dispatchLines xs >>= fun ms => dispatchLines ys >>= fun ns => pure (ms ++ ns) := by
  induction xs with
  | nil => simp [dispatchLines]
  | cons line rest ih =>
    simp only [List.cons_append, dispatchLines, ih, bind_assoc, pure_bind, List.append_assoc]

/-- A line that is a fault ends the dispatch and leaves nothing behind. -/
lemma run_dispatchLines_cons_error {line : List Char} {s : Session} {f : Fault}
    (h : finding s.checkQuery line = .error f) (rest : List (List Char)) :
    (dispatchLines (line :: rest)).run s = { result := .error f, state := s } := by
  have hl := reacts_dispatchLine line s
  have hr : ((dispatchLine line).run s).result = .error f := by
    rw [result_dispatchLine, h]
    rfl
  rw [dispatchLines, Act.run_bind_error _ _ _ hr, hl.state, hl.silent f h, h]
  simp [Except.toOption, Finding.diagnostics]

/-- After a line that is no fault the others follow. -/
lemma run_dispatchLines_cons_ok {line : List Char} {s : Session} {g : Finding}
    (h : finding s.checkQuery line = .ok g) (rest : List (List Char)) :
    (dispatchLines (line :: rest)).run s
      = { result := ((dispatchLines rest).run ((dispatchLine line).run s).state).result.map
            ((Message.ofLine? line).toList ++ ·),
          state := ((dispatchLines rest).run ((dispatchLine line).run s).state).state,
          trace := ((dispatchLine line).run s).trace
            ++ ((dispatchLines rest).run ((dispatchLine line).run s).state).trace } := by
  have hr : ((dispatchLine line).run s).result = .ok (Message.ofLine? line) := by
    rw [result_dispatchLine, h]
    rfl
  rw [dispatchLines, Act.run_bind_ok _ _ _ hr]
  cases hs : ((dispatchLines rest).run ((dispatchLine line).run s).state).result with
  | error f =>
    rw [Act.run_bind_error _ _ _ hs]
    rfl
  | ok ms =>
    rw [Act.run_bind_ok _ _ _ hs]
    simp [Except.map]

@[simp] lemma checkQuery_dispatchLines (lines : List (List Char)) (s : Session) :
    ((dispatchLines lines).run s).state.checkQuery = s.checkQuery := by
  induction lines generalizing s with
  | nil => rfl
  | cons line rest ih =>
    cases h : finding s.checkQuery line with
    | error f => rw [run_dispatchLines_cons_error h]
    | ok g => rw [run_dispatchLines_cons_ok h, ih, checkQuery_dispatchLine]

/-- If no line is a fault, all are acted upon, and the messages are those in the lines. -/
lemma result_dispatchLines {lines : List (List Char)} {s : Session}
    (h : ∀ line ∈ lines, ∃ g, finding s.checkQuery line = .ok g) :
    ((dispatchLines lines).run s).result = .ok (lines.filterMap Message.ofLine?) := by
  induction lines generalizing s with
  | nil => rfl
  | cons line rest ih =>
    obtain ⟨g, hg⟩ := h line List.mem_cons_self
    have hrest : ∀ l ∈ rest,
        ∃ g, finding ((dispatchLine line).run s).state.checkQuery l = .ok g := by
      intro l hl
      rw [checkQuery_dispatchLine]
      exact h l (List.mem_cons_of_mem _ hl)
    rw [run_dispatchLines_cons_ok hg, ih hrest, List.filterMap_cons]
    cases Message.ofLine? line <;> rfl

end Lines

/-! ### The pending text plays no part -/

/-- A session with another text pending. -/
def withLines (b : LineBuffer) (s : Session) : Session := { s with lines := b }

lemma commutes_isStale (b : LineBuffer) (kind : String) (m : Message) :
    Act.Commutes (withLines b) (isStale kind m) := by
  refine Act.Commutes.get_bind (fun _ => rfl) fun s => ?_
  cases m.queryNumber with
  | none => exact .pure _
  | some n =>
    cases hs : s.isSuperseded (some n) with
    | true => simpa [hs] using Act.Commutes.bind (.log _) fun _ => .pure _
    | false => simpa [hs] using Act.Commutes.pure _

lemma commutes_progress (b : LineBuffer) (p : Progress) :
    Act.Commutes (withLines b) (progress p) := by
  rw [progress]
  cases p.range with
  | none => exact .pure _
  | some r =>
    by_cases hs : p.stage = some fragmentOk
    · simp only [hs, if_true]
      refine .get_bind (fun _ => rfl) fun s => ?_
      exact .bind (.ofExcept _) fun _ => .bind (.log _) fun _ => .bind (.tell _) fun _ => .pure _
    · simp only [hs, if_false]
      exact .pure _

lemma commutes_failure (b : LineBuffer) (entries : List Complaint) :
    Act.Commutes (withLines b) (failure entries) := by
  refine .bind (.ofExcept _) fun batch => ?_
  by_cases hb : batch.isEmpty = true
  · simp only [hb, if_true]
    exact .pure _
  · simp only [hb]
    refine .bind (.modify fun _ => rfl) fun _ => ?_
    exact .get_bind (fun _ => rfl) fun s => .bind (.tell _) fun _ => .pure _

lemma commutes_route (b : LineBuffer) (m : Message) : Act.Commutes (withLines b) (route m) := by
  refine .get_bind (fun _ => rfl) fun s => ?_
  cases m.body with
  | protocolInfo version features => exact .log _
  | success response => exact .pure _
  | unhandled kind reason => exact .log _
  | progress p =>
    refine .bind (commutes_isStale b _ m) fun stale => ?_
    cases stale with
    | true => exact .pure _
    | false => exact .bind (commutes_progress b p) fun _ => .pure _
  | failure answer =>
    refine .bind (commutes_isStale b _ m) fun stale => ?_
    cases stale with
    | true => exact .pure _
    | false =>
      cases answer with
      | empty => exact .pure _
      | rejection reason => exact .get_bind (fun _ => rfl) fun s => .log _
      | complaints entries => exact .bind (commutes_failure b entries) fun _ => .pure _

variable [Limits]

lemma commutes_dispatchLine (b : LineBuffer) (line : List Char) :
    Act.Commutes (withLines b) (dispatchLine line) := by
  rw [dispatchLine]
  by_cases hb : Blank.allBlank line = true
  · rw [if_pos hb]
    exact .pure _
  · rw [if_neg hb]
    cases Message.parse line with
    | ok m => exact .bind (commutes_route b m) fun _ => .pure _
    | error e =>
      cases e with
      | tooManyDigits count => exact .fail _
      | tooDeep n => exact .fail _
      | malformed p l column offset =>
        exact .get_bind (fun _ => rfl) fun s => .bind (.log _) fun _ => .pure _

lemma commutes_dispatchLines (b : LineBuffer) (lines : List (List Char)) :
    Act.Commutes (withLines b) (dispatchLines lines) := by
  induction lines with
  | nil => exact .pure _
  | cons line rest ih =>
    exact .bind (commutes_dispatchLine b line) fun _ => .bind ih fun _ => .pure _

/-- Taking in a chunk is acting upon the lines that it completes. -/
lemma run_feed (chunk : List Char) (s : Session) :
    (feed chunk).run s
      = { (dispatchLines (s.lines.feed chunk).1).run s with
          state := withLines (s.lines.feed chunk).2
            ((dispatchLines (s.lines.feed chunk).1).run s).state } := by
  rw [← commutes_dispatchLines]
  rfl

/-- At the end the pending text counts as a line. -/
lemma run_finish (s : Session) :
    finish.run s
      = { (dispatchLines s.lines.flush.1).run s with
          state := withLines s.lines.flush.2 ((dispatchLines s.lines.flush.1).run s).state } := by
  rw [← commutes_dispatchLines]
  rfl

end Session

end ProverLink
