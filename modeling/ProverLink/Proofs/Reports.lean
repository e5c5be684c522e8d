import ProverLink.Proofs.Concerns
import ProverLink.Proofs.Upkeep

/-!
# Reports of failed checkers

The editor is told once when the checker of a document failed, and then hears nothing of the
document until it is opened again. Callbacks that come too late, for a session that does not serve
its document any more, change nothing. All this holds as long as every shutdown ends all sessions,
and that it does if every pipe can be closed.
-/

namespace ProverLink

namespace EditorEvent

/-- Whether an event reports that a checker failed. -/
def isReport : EditorEvent → Bool
  | .logError _ => true
  | _ => false

lemma isReport_of_concerns {u : String} {e : EditorEvent} (h : e.concerns u false = true) :
    e.isReport = false := by
  cases e with
  | logError text => cases h
  | _ => rfl

end EditorEvent

/-- How many failures of checkers are reported in a trace. -/
def reported (tr : List Effect) : Nat := (events tr).countP EditorEvent.isReport

/-! ### What every step keeps -/

namespace Registry

/-- Sessions stay where they are, and none that has ended is open again. -/
def Continues (r r' : Registry) : Prop :=
  ∀ id s, r.session? id = some s →
    ∃ s', r'.session? id = some s' ∧ (s.closed = true → s'.closed = true)

/-- The session in a slot, old or new, ends. -/
def EndsAt (id : Nat) (r r' : Registry) : Prop :=
  (∀ s, r.session? id = some s → s.closed = false) ∧ ∃ s, r'.session? id = some s ∧ s.closed = true

namespace Continues

variable {r r' r'' : Registry}

lemma trans (h : Continues r r') (h' : Continues r' r'') : Continues r r'' := by
  intro id s hs
  obtain ⟨s', hs', hclosed⟩ := h id s hs
  obtain ⟨s'', hs'', hclosed'⟩ := h' id s' hs'
  exact ⟨s'', hs'', hclosed' ∘ hclosed⟩

lemma of_session (h : ∀ j, r'.session? j = r.session? j) : Continues r r' :=
  fun id s hs => ⟨s, (h id).trans hs, fun hclosed => hclosed⟩

/-- Some sessions end. -/
lemma of_ended {p : Nat → Prop} [DecidablePred p]
    (h : ∀ j, r'.session? j = if p j then (r.session? j).map Session.ended else r.session? j) :
    Continues r r' := by
  intro id s hs
  rw [h]
  split
  · exact ⟨s.ended, by rw [hs]; rfl, fun _ => rfl⟩
  · exact ⟨s, hs, fun hclosed => hclosed⟩

lemma of_move [Limits] {u : String} {tr : List Effect} {log : List Receipt}
    (h : Move u r tr log r') : Continues r r' := by
  rcases h.shape with ha | ⟨id, -, hr⟩ | ⟨id, s, s', hs, -, hset, -, hclosed, -⟩
  · exact of_session ha.session
  · exact of_ended hr.session
  · intro j t ht
    rw [hset.session]
    split
    · rename_i hj
      rw [hj, hs, Option.some.injEq] at ht
      exact ⟨s', rfl, fun hended => by rw [hclosed, ht, hended]⟩
    · exact ⟨t, ht, fun hclosed => hclosed⟩

lemma of_adopts {u : String} {id : Nat} (h : Adopts u id r r') : Continues r r' := by
  intro j s hs
  rw [h.session, if_neg (h.ne_of_session hs)]
  exact ⟨s, hs, fun hclosed => hclosed⟩

end Continues

end Registry

namespace Bridge

open Registry

/-- Whether a step is no shutdown that breaks off. -/
def Step.Completes (r : Registry) (st : Step) : Prop :=
  st = .shutdown → (Bridge.shutdown.run r).result = .ok ()

/-- If every pipe can be closed, every shutdown ends all sessions. -/
lemma completes_of_orderly {r : Registry} (h : r.Orderly) (st : Step) : st.Completes r :=
  fun _ => (releases_closeAll h.keys h.serves fun _ _ _ => h.closeFault?_eq_none).1

/-- Each open session serves its document, and each document that is found has one. -/
structure Paired (r : Registry) : Prop where
  serves : r.Serves
  owned : r.Owned

lemma paired_start (config : Config) : Paired { config } :=
  ⟨(standing_start config).serves, (standing_start config).owned⟩

variable [Limits] {st : Step} {r : Registry}

lemma continues_step (hserves : r.Serves) (st : Step) : Continues r (st.act.run r).state := by
  refine (course_step hserves st).keeps (P := Continues r) ?_ ?_ ?_ ?_ (.of_session fun _ => rfl)
  · intro _ _ h _ hsession
    exact h.trans (.of_session hsession)
  · intro _ _ _ _ _ h hmove
    exact h.trans (.of_move hmove)
  · intro _ _ _ _ _ h hadopts
    exact h.trans (.of_adopts hadopts)
  · intro gone _ _ hsession _
    exact .of_ended hsession

lemma owned_step (hserves : r.Serves) (howned : r.Owned) (hst : st.Completes r) :
    (st.act.run r).state.Owned := by
  refine (course_step hserves st).keeps ?_ Owned.move (fun _ h => h.adopts) ?_ howned
  · intro r r' h hfind hsession id s hs hopen
    rw [hsession] at hs
    rw [hfind]
    exact h id s hs hopen
  · intro gone hshutdown _ hsession hall id s hs hopen
    rw [hsession] at hs
    split at hs
    · obtain ⟨t, -, rfl⟩ := Option.map_eq_some_iff.1 hs
      cases hopen
    · rename_i hid
      exact absurd (hall (hst hshutdown) _ id (howned id s hs hopen)) hid

/-- A document gets a session only if it is opened. -/
lemma find?_step_eq_none {u : String} (hserves : r.Serves) (hfind : r.find? u = none)
    (hst : ¬st.Opens u) : (st.act.run r).state.find? u = none := by
  refine (course_step hserves st).keeps (P := fun r => r.find? u = none) ?_ ?_ ?_ ?_ hfind
  · intro _ _ h hsame _
    rw [hsame, h]
  · intro _ _ _ _ _ h hmove
    rcases hmove.shape with ha | ⟨id, -, hr⟩ | ⟨_, _, _, -, -, hset, -⟩
    · rw [ha.find, h]
    · rw [hr.find, h]
      split <;> rfl
    · rw [hset.find, h]
  · intro v _ _ _ hopens h hadopts
    rw [hadopts.find, if_neg, h]
    rintro rfl
    exact hst hopens
  · intro _ _ hnone _ _
    exact hnone u

/-! ### What the editor is told in a step -/

/-- The slot of the session whose failure may be reported in a step: that whose end is delivered,
that which is asked for a check, or the new one. -/
def Step.reporter? (r : Registry) : Step → Option Nat
  | .openDocument u text path =>
    if (((Step.openDocument u text path).act.run r).state.session? r.slots.length).isSome then
      some r.slots.length
    else none
  | .changeDocument u _ => r.find? u
  | .exit id _ => some id
  | _ => none

/-- What the editor is told in a step. It is all about the document of the step, which has a session
or is opened. If a failure is reported, it comes last, and the document has no session behind it:
either a session has ended, or none could be started. -/
inductive Telling (st : Step) (r : Registry) (es : List EditorEvent) (r' : Registry) : Prop where
  | shown (u : String) : (∀ e ∈ es, e.concerns u false = true) →
    (es ≠ [] → st.document? r = some u ∧ (r.find? u ≠ none ∨ st.Opens u)) → Telling st r es r'
  | reported (u message : String) (front : List EditorEvent) :
    es = front ++ [.publish u [.ofFailure message], .logError (u ++ ": " ++ message)] →
    (∀ e ∈ front, e.concerns u false = true) → st.document? r = some u →
    (r.find? u ≠ none ∨ st.Opens u) → r'.find? u = none →
    ((∃ id, st.reporter? r = some id ∧ EndsAt id r r') ∨ st.reporter? r = none ∧ st.Opens u) →
    Telling st r es r'

lemma Telling.silent {st : Step} {r r' : Registry} {es : List EditorEvent} (h : es = []) :
    Telling st r es r' :=
  .shown "" (by simp [h]) fun hne => absurd h hne

end Bridge

namespace Registry

section Queries

variable {r : Registry} {u : String} {id : Nat} {front : List Effect} {s s' : Session} {c : Child}
  {line : List Char} {o : Outcome Registry (Option Nat)}

/-- A document has lost its session, and that is reported. -/
def Reports (u : String) (id : Nat) (front : List Effect) (o : Outcome Registry (Option Nat)) :
    Prop :=
  ∃ message, events o.trace
      = events front ++ [.publish u [.ofFailure message], .logError (u ++ ": " ++ message)] ∧
    o.state.find? u = none ∧ ∃ t, o.state.session? id = some t ∧ t.closed = true

lemma Refusing.events (h : Refusing u id front s c r o) :
    ProverLink.events o.trace = ProverLink.events front ∨ Reports u id front o := by
  rw [Reports, ← events_visible o.trace]
  cases h with
  | lost e _ _ hr _ htrace =>
    refine .inr ⟨Fault.transportMessage e, ?_, hr.find_self, _, hr.session, rfl⟩
    rw [htrace, events_append]
    rfl
  | cut _ _ _ _ _ _ htrace => exact .inl (by rw [htrace])
  | wild _ _ _ _ _ htrace => exact .inl (by rw [htrace])

lemma Sending.events (h : Sending u id front s s' c line r o) :
    ProverLink.events o.trace = ProverLink.events front ∨ Reports u id front o := by
  cases h with
  | taken _ _ _ htrace =>
    rw [← events_visible o.trace, htrace, events_append]
    exact .inl (List.append_nil _)
  | refused h => exact h.events

end Queries

end Registry

namespace Bridge

open Registry

lemma concerns_clearing (u : String) :
    ∀ e ∈ events (clearing u), e.concerns u false = true := by
  intro e he
  rcases List.mem_cons.1 he with rfl | he
  · exact decide_eq_true rfl
  · cases List.mem_singleton.1 he
    exact decide_eq_true rfl

section Runs

variable [Limits]

lemma telling_changeDocument {r : Registry} (hserves : r.Serves) (u text : String) :
    Telling (.changeDocument u text) r (events ((changeDocument u text).run r).trace)
      ((changeDocument u text).run r).state := by
  cases hfind : r.find? u with
  | none =>
    obtain ⟨notice, hrun⟩ := run_changeDocument_of_none hfind text
    rw [hrun]
    exact .silent rfl
  | some id =>
    obtain ⟨s, hs, hu, hopen⟩ := hserves u id hfind
    obtain ⟨c, hc⟩ := exists_child_of_session hs
    have hserved : r.find? u ≠ none := by simp [hfind]
    rcases (sending_changeDocument hfind hs hc hu (Query.toLine_fullBuffer text _)).events with
      hes | ⟨message, hes, hgone, hended⟩
    · rw [hes]
      exact .shown u (concerns_clearing u) fun _ => ⟨rfl, .inl hserved⟩
    · refine .reported u message _ hes (concerns_clearing u) rfl (.inl hserved) hgone
        (.inl ⟨id, hfind, fun t ht => ?_, hended⟩)
      rw [hs, Option.some.injEq] at ht
      exact ht ▸ hopen

/-- A new session is the one whose failure may be reported. -/
lemma Telling.of_reports {r : Registry} {u text : String} {path : Option Path} {front : List Effect}
    {o o' : Outcome Registry (Option Nat)}
    (hstate : ((Step.openDocument u text path).act.run r).state = o'.state)
    (hfront : ∀ e ∈ events front, e.concerns u false = true) (h : Reports u r.slots.length front o)
    (ho : o'.state = o.state) (htrace : events o'.trace = events o.trace) :
    Telling (.openDocument u text path) r (events o'.trace) o'.state := by
  obtain ⟨message, hes, hgone, t, ht, hended⟩ := h
  rw [htrace, ho]
  refine .reported u message _ hes hfront rfl (.inr rfl) hgone
    (.inl ⟨r.slots.length, ?_, ?_, t, ht, hended⟩)
  · rw [Step.reporter?, hstate, ho, ht]
    rfl
  · intro s hs
    rw [session?_length] at hs
    cases hs

lemma telling_opening {r : Registry} {u text : String} {path : Option Path}
    {o : Outcome Registry (Option Nat)}
    (hstate : ((Step.openDocument u text path).act.run r).state = o.state)
    (ho : Opening u text r o) :
    Telling (.openDocument u text path) r (events o.trace) o.state := by
  have hevents := (events_visible o.trace).symm
  cases ho with
  | stuck _ _ _ _ _ _ _ _ _ _ htrace => exact .silent (by rw [hevents, htrace]; rfl)
  | unstarted message hv _ htrace =>
    refine .reported u message [] (by rw [hevents, htrace]; rfl) (by simp) rfl (.inr rfl) ?_
      (.inr ⟨?_, rfl⟩)
    · rw [hv.find, if_pos rfl]
    · rw [Step.reporter?, hstate, (hv.session_eq_none_iff _).2 (session?_length r)]
      rfl
  | failed _ _ _ htrace => exact .silent (by rw [hevents, htrace]; rfl)
  | pipeless _ _ _ _ _ _ htrace => exact .silent (by rw [hevents, htrace]; rfl)
  | @refused _ _ o₁ _ _ _ _ ho₁ _ hstate₁ _ htrace =>
    have hsame : events o.trace = events o₁.trace := by
      rw [hevents, htrace, ← events_visible o₁.trace]
      rfl
    rcases ho₁.events with hes | hreports
    · exact .silent (by rw [hsame, hes]; rfl)
    · exact .of_reports hstate (by simp [events]) hreports hstate₁ hsame
  | @checked _ _ _ o₂ _ _ _ _ _ _ _ _ _ _ ho₂ hstate₂ _ htrace =>
    have hsame : events o.trace = events o₂.trace := by
      rw [hevents, htrace, ← events_visible o₂.trace]
      rfl
    rcases ho₂.events with hes | hreports
    · rw [hsame, hes]
      exact .shown u (concerns_clearing u) fun _ => ⟨rfl, .inr rfl⟩
    · exact .of_reports hstate (concerns_clearing u) hreports hstate₂ hsame

lemma telling_openDocument {r : Registry} (hserves : r.Serves) (u text : String)
    (path : Option Path) :
    Telling (.openDocument u text path) r (events ((Step.openDocument u text path).act.run r).trace)
      ((Step.openDocument u text path).act.run r).state := by
  rcases opening_openStep u text path hserves with ⟨o, ho, hrun⟩ | ⟨f, hrun⟩
  · exact hrun ▸ telling_opening (congrArg Outcome.state hrun) ho
  · rw [hrun]
    exact .silent rfl

lemma telling_hearing {r : Registry} {id : Nat} {text : List Char} {o : Outcome Registry Unit}
    (howned : r.Owned) (ho : Hearing id text r o) :
    Telling (.output id text) r (events o.trace) o.state := by
  cases ho with
  | deaf _ ho =>
    rw [ho]
    exact .silent rfl
  | @heard s _ es _ hs _ hopen _ hes htrace =>
    rw [← events_visible, htrace, events_map_event]
    exact .shown s.uri (fun e he => (hes.shows e he).concerns false) fun _ =>
      ⟨by rw [Step.document?, hs]; rfl, .inl (by simp [howned id s hs hopen])⟩

lemma telling_exiting {r : Registry} {id : Nat} {code : Option Int} {o : Outcome Registry Unit}
    (howned : r.Owned) (ho : Exiting id code r o) :
    Telling (.exit id code) r (events o.trace) o.state := by
  cases ho with
  | deaf _ ho =>
    rw [ho]
    exact .silent rfl
  | broken _ _ _ _ _ _ _ _ htrace => exact .silent (by rw [← events_visible, htrace]; rfl)
  | @lost s _ es _ hs _ hopen _ hfind _ hr _ hes htrace =>
    refine .reported s.uri (exitMessage code) es ?_
      (fun e he => (hes.shows e he).concerns false) (by rw [Step.document?, hs]; rfl)
      (.inl (by simp [hfind])) hr.find_self (.inl ⟨id, rfl, fun t ht => ?_, _, hr.session, rfl⟩)
    · rw [← events_visible, htrace, events_append, events_map_event]
      rfl
    · rw [hs, Option.some.injEq] at ht
      exact ht ▸ hopen
  | @cut s _ _ es _ hs _ _ _ hfind _ _ _ hes htrace =>
    rw [← events_visible, htrace, events_map_event]
    exact .shown s.uri (fun e he => (hes.shows e he).concerns false) fun _ =>
      ⟨by rw [Step.document?, hs]; rfl, .inl (by simp [hfind])⟩
  -- an open session that serves no document is what a shutdown leaves that breaks off
  | stray _ _ hs _ hopen hfind _ _ _ => exact absurd (howned id _ hs hopen) hfind

lemma telling_step {r : Registry} (hserves : r.Serves) (howned : r.Owned) (st : Step) :
    Telling st r (events (st.act.run r).trace) (st.act.run r).state := by
  cases st with
  | openDocument u text path => exact telling_openDocument hserves u text path
  | changeDocument u text =>
    rw [Step.act, Act.run_map]
    exact telling_changeDocument hserves u text
  | closeDocument u =>
    rw [← events_visible, visible_closeDocument hserves u]
    exact .silent rfl
  | shutdown =>
    rw [← events_visible, visible_shutdown r]
    exact .silent rfl
  | output id text =>
    rw [Step.act, Act.run_map]
    exact telling_hearing howned (hearing_handleOutput id text r)
  | exit id code =>
    rw [Step.act, Act.run_map]
    exact telling_exiting howned (exiting_handleExit id code r)
  | reap id =>
    rw [← events_visible, visible_reap id r]
    exact .silent rfl
  | plan p => exact .silent rfl
  | world change => exact .silent rfl

namespace Telling

variable {st : Step} {r r' : Registry} {es : List EditorEvent}

/-- A step reports at most one failure: of a session that has ended, or of a document that is opened
and gets none. -/
lemma count (h : Telling st r es r') :
    es.countP EditorEvent.isReport = 0 ∨ es.countP EditorEvent.isReport = 1 ∧
      ((∃ id, st.reporter? r = some id ∧ EndsAt id r r') ∨
        st.reporter? r = none ∧ ∃ u, st.Opens u) := by
  cases h with
  | shown u hes _ =>
    left
    rw [List.countP_eq_zero]
    intro e he
    rw [EditorEvent.isReport_of_concerns (hes e he)]
    decide
  | reported u message front hes hfront _ _ _ hended =>
    right
    have hquiet : front.countP EditorEvent.isReport = 0 := by
      rw [List.countP_eq_zero]
      intro e he
      rw [EditorEvent.isReport_of_concerns (hfront e he)]
      decide
    refine ⟨by rw [hes, List.countP_append, hquiet]; rfl, ?_⟩
    rcases hended with hended | ⟨hnone, hopens⟩
    · exact .inl hended
    · exact .inr ⟨hnone, u, hopens⟩

/-- Each event is about the document of the step: it names it, or it logs what is published for it
in the same step. -/
lemma attributed (h : Telling st r es r') {e : EditorEvent} (he : e ∈ es) :
    ∃ v, st.document? r = some v ∧ (r.find? v ≠ none ∨ st.Opens v) ∧ e.concerns v true = true ∧
      ∀ text, e = .logError text →
        ∃ message, text = v ++ ": " ++ message ∧ .publish v [.ofFailure message] ∈ es := by
  have hmono : ∀ {v : String} {e : EditorEvent}, e.concerns v false = true →
      e.concerns v true = true ∧ ∀ text, e ≠ .logError text := by
    intro v e he
    cases e with
    | logError text => cases he
    | _ => exact ⟨he, nofun⟩
  cases h with
  | shown u hes hserved =>
    obtain ⟨hdocument, hserved⟩ := hserved (List.ne_nil_of_mem he)
    obtain ⟨hconcerns, hlog⟩ := hmono (hes e he)
    exact ⟨u, hdocument, hserved, hconcerns, fun text htext => absurd htext (hlog text)⟩
  | reported u message front hes hfront hdocument hserved _ _ =>
    refine ⟨u, hdocument, hserved, ?_⟩
    rw [hes] at he
    rcases List.mem_append.1 he with he | he
    · obtain ⟨hconcerns, hlog⟩ := hmono (hfront e he)
      exact ⟨hconcerns, fun text htext => absurd htext (hlog text)⟩
    · rcases List.mem_cons.1 he with rfl | he
      · exact ⟨decide_eq_true rfl, nofun⟩
      · rw [List.mem_singleton.1 he]
        refine ⟨rfl, fun text htext => ⟨message, (EditorEvent.logError.inj htext).symm, ?_⟩⟩
        rw [hes]
        simp

/-- A report comes last, and behind it the document has no session. -/
lemma report_last {u message : String} (h : Telling st r es r')
    (hpublish : .publish u [.ofFailure message] ∈ es)
    (hlog : .logError (u ++ ": " ++ message) ∈ es) :
    r'.find? u = none ∧ ∃ front,
      es = front ++ [.publish u [.ofFailure message], .logError (u ++ ": " ++ message)] := by
  cases h with
  | shown v hes _ => cases hes _ hlog
  | reported v m front hes hfront _ _ hgone _ =>
    -- the text of the log does not determine the document, but the diagnostics name it
    have hv : v = u := by
      rw [hes] at hpublish
      rcases List.mem_append.1 hpublish with he | he
      · exact (of_decide_eq_true (hfront _ he)).symm
      · simp only [List.mem_cons, EditorEvent.publish.injEq, reduceCtorEq, List.not_mem_nil,
          or_false] at he
        exact he.1.symm
    subst hv
    have hm : v ++ ": " ++ message = v ++ ": " ++ m := by
      rw [hes] at hlog
      rcases List.mem_append.1 hlog with he | he
      · cases hfront _ he
      · simpa using he
    rw [String.append_right_inj] at hm
    exact ⟨hgone, front, hm ▸ hes⟩

end Telling

/-! ### Reports in a run -/

/-- Whether every shutdown among some steps ends all sessions. -/
def Completes : List Step → Registry → Prop
  | [], _ => True
  | st :: rest, r => st.Completes r ∧ Completes rest (st.act.run r).state

lemma completes_append {xs ys : List Step} {r : Registry} :
    Completes (xs ++ ys) r ↔ Completes xs r ∧ Completes ys (after xs r) := by
  induction xs generalizing r with
  | nil => simp [Completes, after]
  | cons st rest ih => rw [List.cons_append, Completes, ih, Completes, and_assoc, after]

/-- How many failures of the session in a slot are reported in some steps. -/
def reports (id : Nat) : List Step → Registry → Nat
  | [], _ => 0
  | st :: rest, r =>
    (if st.reporter? r = some id then reported (st.act.run r).trace else 0)
      + reports id rest (st.act.run r).state

lemma reports_append (id : Nat) (xs ys : List Step) (r : Registry) :
    reports id (xs ++ ys) r = reports id xs r + reports id ys (after xs r) := by
  induction xs generalizing r with
  | nil => simp [reports, after]
  | cons st rest ih => rw [List.cons_append, reports, ih, reports, Nat.add_assoc, after]

lemma Paired.step {r : Registry} (h : Paired r) {st : Step} (hst : st.Completes r) :
    Paired (st.act.run r).state :=
  ⟨(course_step h.serves st).serves h.serves, owned_step h.serves h.owned hst⟩

lemma Paired.after {steps : List Step} {r : Registry} (h : Paired r) (hsteps : Completes steps r) :
    Paired (Bridge.after steps r) := by
  induction steps generalizing r with
  | nil => exact h
  | cons st rest ih => exact ih (h.step hsteps.1) hsteps.2

lemma Paired.continues {steps : List Step} {r : Registry} (h : Paired r)
    (hsteps : Completes steps r) :
    Continues r (Bridge.after steps r) := by
  induction steps generalizing r with
  | nil => exact .of_session fun _ => rfl
  | cons st rest ih => exact (continues_step h.serves st).trans (ih (h.step hsteps.1) hsteps.2)

/-- What a step reports of a session: nothing, or the session ends and there is one report. -/
lemma Paired.report_cases {r : Registry} (h : Paired r) (st : Step) (id : Nat) :
    (if st.reporter? r = some id then reported (st.act.run r).trace else 0) = 0 ∨
      (if st.reporter? r = some id then reported (st.act.run r).trace else 0) = 1 ∧
        EndsAt id r (st.act.run r).state := by
  split
  · rename_i hid
    rcases (telling_step h.serves h.owned st).count with hnone | ⟨hone, ⟨j, hj, hends⟩ | ⟨hj, -⟩⟩
    · exact .inl hnone
    · rw [hid, Option.some.injEq] at hj
      exact .inr ⟨hone, hj ▸ hends⟩
    · rw [hid] at hj
      cases hj
  · exact .inl rfl

lemma Paired.reports_of_closed {steps : List Step} {r : Registry} (h : Paired r)
    (hsteps : Completes steps r) {id : Nat} {s : Session} (hs : r.session? id = some s)
    (hclosed : s.closed = true) : reports id steps r = 0 := by
  induction steps generalizing r s with
  | nil => rfl
  | cons st rest ih =>
    obtain ⟨s', hs', hclosed'⟩ := continues_step h.serves st id s hs
    rw [reports, ih (h.step hsteps.1) hsteps.2 hs' (hclosed' hclosed)]
    rcases h.report_cases st id with hnone | ⟨-, hopen, -⟩
    · rw [hnone]
    · rw [hopen s hs] at hclosed
      cases hclosed

lemma Paired.reports_le_one {steps : List Step} {r : Registry} (h : Paired r)
    (hsteps : Completes steps r) (id : Nat) : reports id steps r ≤ 1 := by
  induction steps generalizing r with
  | nil => exact Nat.zero_le _
  | cons st rest ih =>
    rw [reports]
    rcases h.report_cases st id with hnone | ⟨hone, -, s, hs, hclosed⟩
    · rw [hnone, Nat.zero_add]
      exact ih (h.step hsteps.1) hsteps.2
    · have hrest := (h.step hsteps.1).reports_of_closed hsteps.2 hs hclosed
      simp [hone, hrest]

/-- A session that is open has not been reported. -/
lemma Paired.reports_of_open {steps : List Step} {r : Registry} (h : Paired r)
    (hsteps : Completes steps r) {id : Nat} {s : Session}
    (hs : (Bridge.after steps r).session? id = some s) (hopen : s.closed = false) :
    reports id steps r = 0 := by
  induction steps generalizing r with
  | nil => rfl
  | cons st rest ih =>
    have hnext := h.step hsteps.1
    rw [reports, ih hnext hsteps.2 hs]
    rcases h.report_cases st id with hnone | ⟨-, -, t, ht, hclosed⟩
    · rw [hnone]
    · -- a session that was reported has ended, and stays so
      obtain ⟨t', ht', hclosed'⟩ := hnext.continues hsteps.2 id t ht
      rw [Bridge.after, ht', Option.some.injEq] at hs
      rw [← hs, hclosed' hclosed] at hopen
      cases hopen

/-- Whether sessions end in a step because documents are closed or opened again. -/
def Step.LetsGo : Step → Prop
  | .openDocument _ _ _ => True
  | .closeDocument _ => True
  | .shutdown => True
  | _ => False

lemma Step.LetsGo.reporter? {st : Step} {r : Registry} {id : Nat} {s : Session} (h : st.LetsGo)
    (hs : r.session? id = some s) : st.reporter? r ≠ some id := by
  cases st with
  | openDocument u text path =>
    rw [Step.reporter?]
    split
    · rintro hid
      rw [Option.some.injEq] at hid
      rw [← hid, session?_length] at hs
      cases hs
    · exact nofun
  | closeDocument u => exact nofun
  | shutdown => exact nofun
  | _ => exact h.elim

lemma Paired.reports_of_letsGo {before behind : List Step} {st : Step} {r : Registry} (h : Paired r)
    (hsteps : Completes (before ++ st :: behind) r) (hst : st.LetsGo) {id : Nat} {s s' : Session}
    (hs : (Bridge.after before r).session? id = some s) (hopen : s.closed = false)
    (hs' : (st.act.run (Bridge.after before r)).state.session? id = some s')
    (hclosed : s'.closed = true) :
    reports id (before ++ st :: behind) r = 0 := by
  obtain ⟨hbefore, hcompletes, hbehind⟩ := completes_append.1 hsteps
  have hpaired := h.after hbefore
  rw [reports_append, reports, h.reports_of_open hbefore hs hopen, if_neg (hst.reporter? hs),
    (hpaired.step hcompletes).reports_of_closed hbehind hs' hclosed]

lemma Paired.find?_after_eq_none {steps : List Step} {r : Registry} {u : String} (h : Paired r)
    (hsteps : Completes steps r) (hfind : r.find? u = none) (hclosed : ∀ st ∈ steps, ¬st.Opens u) :
    (Bridge.after steps r).find? u = none := by
  induction steps generalizing r with
  | nil => exact hfind
  | cons st rest ih =>
    obtain ⟨hst, hrest⟩ := List.forall_mem_cons.1 hclosed
    exact ih (h.step hsteps.1) hsteps.2 (find?_step_eq_none h.serves hfind hst) hrest

/-- A document without a session is not mentioned unless it is opened. -/
lemma Paired.attributed {r : Registry} {u : String} (h : Paired r) (hfind : r.find? u = none)
    {st : Step} (hst : ¬st.Opens u) {e : EditorEvent} (he : e ∈ events (st.act.run r).trace) :
    ∃ v, v ≠ u ∧ st.document? r = some v ∧ e.concerns v true = true ∧
      ∀ text, e = .logError text → ∃ message, text = v ++ ": " ++ message ∧
        .publish v [.ofFailure message] ∈ events (st.act.run r).trace := by
  obtain ⟨v, hdocument, hserved, habout⟩ := (telling_step h.serves h.owned st).attributed he
  refine ⟨v, ?_, hdocument, habout⟩
  rintro rfl
  exact hserved.elim (fun hne => hne hfind) hst

lemma completes_of_clean {steps : List Step} {r : Registry} (h : r.Orderly)
    (hsteps : ∀ st ∈ steps, st.IsClean) : Completes steps r := by
  induction steps generalizing r with
  | nil => trivial
  | cons st rest ih =>
    obtain ⟨hst, hrest⟩ := List.forall_mem_cons.1 hsteps
    exact ⟨completes_of_orderly h st, ih (h.step hst) hrest⟩

/-- A callback for a session that is not open changes nothing and tells nothing. -/
lemma Paired.late {r : Registry} (h : Paired r) {id : Nat} {s : Session}
    (hs : r.session? id = some s)
    (hfind : r.find? s.uri ≠ some id) (text : List Char) (code : Option Int) :
    (handleOutput id text).run r = { result := .ok (), state := r } ∧
      (handleExit id code).run r = { result := .ok (), state := r } := by
  have hclosed : ¬isOpen r id = true := by
    rw [isOpen_iff]
    rintro ⟨t, ht, hopen⟩
    rw [hs, Option.some.injEq] at ht
    exact hfind (h.owned id s hs (ht ▸ hopen))
  constructor
  · rw [handleOutput, Act.run_get_bind, if_neg hclosed]
    rfl
  · rw [handleExit, Act.run_get_bind, if_neg hclosed]
    rfl

/-- Callbacks that come too late change nothing. A session is reported at most once, and not at all
if its document is closed or opened again; all reports are of sessions or of documents that cannot
be opened. A report is the last that the editor is told in its step, and behind it the document is
not mentioned until it is opened: whatever the editor is told is about another document, that of the
step, and a log gives a failure that is published for that document in the same step. Left out are
pipes whose closing has a fault that nobody handles. -/
theorem failures_are_reported_once (config : Config) (steps : List Step)
    (hsteps : ∀ st ∈ steps, st.IsClean) :
    let r : Registry := { config }
    (∀ id s, (after steps r).session? id = some s → (after steps r).find? s.uri ≠ some id →
      ∀ text code,
        (handleOutput id text).run (after steps r) = { result := .ok (), state := after steps r } ∧
        (handleExit id code).run (after steps r) = { result := .ok (), state := after steps r }) ∧
    (∀ id, reports id steps r ≤ 1) ∧
    (∀ before st behind id s s', steps = before ++ st :: behind → st.LetsGo →
      (after before r).session? id = some s → s.closed = false →
      (st.act.run (after before r)).state.session? id = some s' → s'.closed = true →
      reports id steps r = 0) ∧
    (∀ before st behind, steps = before ++ st :: behind →
      reported (st.act.run (after before r)).trace ≠ 0 →
      (∃ id, st.reporter? (after before r) = some id) ∨ ∃ u, st.Opens u) ∧
    ∀ before st behind u message, steps = before ++ st :: behind →
      .publish u [.ofFailure message] ∈ events (st.act.run (after before r)).trace →
      .logError (u ++ ": " ++ message) ∈ events (st.act.run (after before r)).trace →
      (∃ front, events (st.act.run (after before r)).trace
        = front ++ [.publish u [.ofFailure message], .logError (u ++ ": " ++ message)]) ∧
      ∀ middle st' rest, behind = middle ++ st' :: rest → (∀ other ∈ middle, ¬other.Opens u) →
        ¬st'.Opens u →
        let r' := after middle (st.act.run (after before r)).state
        let es := events (st'.act.run r').trace
        ∀ e ∈ es, ∃ v, v ≠ u ∧ st'.document? r' = some v ∧ e.concerns v true = true ∧
          ∀ text, e = .logError text →
            ∃ failure, text = v ++ ": " ++ failure ∧ .publish v [.ofFailure failure] ∈ es := by
  intro r
  have hstart := paired_start config
  replace hsteps := completes_of_clean (orderly_start config) hsteps
  refine ⟨fun id s hs hfind text code => (hstart.after hsteps).late hs hfind text code,
    hstart.reports_le_one hsteps, ?_, ?_, ?_⟩
  · rintro before st behind id s s' rfl hst hs hopen hs' hclosed
    exact hstart.reports_of_letsGo hsteps hst hs hopen hs' hclosed
  · rintro before st behind rfl hreported
    have hpaired := hstart.after (completes_append.1 hsteps).1
    rcases (telling_step hpaired.serves hpaired.owned st).count with
      hnone | ⟨-, ⟨id, hid, -⟩ | ⟨-, hopens⟩⟩
    · exact absurd hnone hreported
    · exact .inl ⟨id, hid⟩
    · exact .inr hopens
  · rintro before st behind u message rfl hpublish hlog
    obtain ⟨hbefore, hcompletes, hbehind⟩ := completes_append.1 hsteps
    have hpaired := hstart.after hbefore
    obtain ⟨hgone, hlast⟩ :=
      (telling_step hpaired.serves hpaired.owned st).report_last hpublish hlog
    refine ⟨hlast, ?_⟩
    rintro middle st' rest rfl hclosed hst'
    have hmiddle := (completes_append.1 hbehind).1
    have hnext := hpaired.step hcompletes
    exact fun e he => (hnext.after hmiddle).attributed
      (hnext.find?_after_eq_none hmiddle hgone hclosed) hst' he

end Runs

/-- A document loses its session to a broken pipe, is opened again and is closed by a shutdown; the
ends of both checkers are delivered late. -/
def lateExits : List Step :=
  [.openDocument "a" "x" (some {}),
   .world fun _ c => { c with stdin := { c.stdin with writeError := some (.value "closed") } },
   .changeDocument "a" "y",
   .exit 0 (some 1),
   .openDocument "a" "z" (some {}),
   .shutdown,
   .exit 1 none]

theorem failures_are_reported_once_in_lateExits :
    (∀ st ∈ lateExits, st.IsClean) ∧ reported (trace lateExits { config := {} }) = 1 ∧
      reports 0 lateExits { config := {} } ≤ 1 ∧ reports 1 lateExits { config := {} } = 0 ∧
      (handleExit 0 (some 1)).run (after lateExits { config := {} })
        = { result := .ok (), state := after lateExits { config := {} } } := by
  have hclean : ∀ st ∈ lateExits, st.IsClean := by
    intro st hst
    simp only [lateExits, List.mem_cons, List.not_mem_nil, or_false] at hst
    rcases hst with rfl | rfl | rfl | rfl | rfl | rfl | rfl
    case inr.inl => exact fun _ _ hclose => hclose
    all_goals trivial
  have hopen : ((after (lateExits.take 5) { config := {} }).session? 1).map (·.closed)
      = some false := by decide +kernel
  have hclosed : ((Step.shutdown.act.run (after (lateExits.take 5) { config := {} })).state.session?
      1).map (·.closed) = some true := by decide +kernel
  have hfirst : ((after lateExits { config := {} }).session? 0).map (·.uri) = some "a" := by
    decide +kernel
  have hgone : (after lateExits { config := {} }).find? "a" = none := by decide +kernel
  obtain ⟨s, hs, hopen⟩ := Option.map_eq_some_iff.1 hopen
  obtain ⟨s', hs', hclosed⟩ := Option.map_eq_some_iff.1 hclosed
  obtain ⟨t, ht, huri⟩ := Option.map_eq_some_iff.1 hfirst
  obtain ⟨hlate, honce, hnone, -, -⟩ := failures_are_reported_once {} lateExits hclean
  refine ⟨hclean, by decide +kernel, honce 0, ?_, ?_⟩
  · exact hnone (lateExits.take 5) .shutdown [.exit 1 none] 1 s s' rfl trivial hs hopen hs' hclosed
  · exact (hlate 0 t ht (by simp [huri, hgone]) [] (some 1)).2

end Bridge

end ProverLink
