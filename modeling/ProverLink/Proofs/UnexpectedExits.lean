import ProverLink.Proofs.EditorView
import ProverLink.Proofs.LostLines
import ProverLink.Proofs.Reports

/-!
# Checkers that end by themselves

When the checker of a document ends, the text that it left without a line break is acted upon, the
document loses its session, and the editor shows the failure. There are two ways to keep this from
happening: the text is a line that breaks off, because it is misplaced, holds a number that is too
long or is nested too deeply, or standard input cannot be closed.
-/

namespace ProverLink

lemma Session.not_breaksOff_pending [Limits] {check : Int} {text : List Char}
    (h : text ≠ [] → ∃ g, finding check text = .ok g) : ¬BreaksOff check text := by
  by_cases htext : text = []
  · rintro ⟨hblank, -⟩
    rw [htext] at hblank
    cases hblank
  · obtain ⟨g, hg⟩ := h htext
    rw [← finding_eq_error_iff, hg]
    rintro ⟨f, hf⟩
    cases hf

namespace Bridge

open Registry

/-- The end of a checker is dealt with: the document has no session, the one it had is closed, the
editor shows the failure and nothing else, and all other documents and slots are as they were. -/
structure CleansUp (u : String) (id : Nat) (code : Option Int) (r : Registry)
    (o : Outcome Registry Unit) : Prop where
  result : o.result = .ok ()
  find : ∀ v, o.state.find? v = if v = u then none else r.find? v
  closed : ∃ s, o.state.session? id = some s ∧ s.closed = true
  shown : lastShown u o.trace = some [.ofFailure (exitMessage code)]
  others : ∀ j, j ≠ id → o.state.slots[j]? = r.slots[j]?

lemma lastShown_report (u message : String) :
    lastShown u (report u message) = some [.ofFailure message] := by
  simp [lastShown, report, events, Effect.event?, EditorEvent.shown?, List.filterMap]

lemma reported_of_shows {u : String} {es : List EditorEvent} (h : ∀ e ∈ es, e.Shows u) :
    (events (es.map .event)).countP EditorEvent.isReport = 0 := by
  rw [events_map_event, List.countP_eq_zero]
  intro e he
  rw [EditorEvent.isReport_of_concerns ((h e he).concerns false)]
  decide

section Exit

variable [Limits] {r : Registry} {u : String} {id : Nat} {s : Session} {c : Child}
  (hfind : r.find? u = some id) (hs : r.session? id = some s) (hc : r.child? id = some c)
  (hu : s.uri = u) (hopen : s.closed = false)

include hfind hs hc hu hopen

/-- The text breaks off, or the exit is dealt with, or standard input cannot be closed. -/
lemma exit_cases (code : Option Int) :
    (Session.BreaksOff s.checkQuery s.lines.pending ∧
      (∃ f, ((handleExit id code).run r).result = .error f) ∧
      Revises u id (some id) (s.withLines {}) c r ((handleExit id code).run r).state ∧
      events ((handleExit id code).run r).trace = []) ∨
    ¬Session.BreaksOff s.checkQuery s.lines.pending ∧
      ((c.closeFault? = none ∧ CleansUp u id code r ((handleExit id code).run r)) ∨
        ∃ f, c.closeFault? = some f ∧ ((handleExit id code).run r).result = .error f ∧
          (∃ t, t.closed = true ∧ Revises u id none t c.shut r ((handleExit id code).run r).state) ∧
          reported ((handleExit id code).run r).trace = 0) := by
  subst hu
  cases exiting_handleExit id code r with
  | deaf hdeaf _ => exact absurd ((isOpen_iff r id).2 ⟨s, hs, hopen⟩) hdeaf
  | @broken t d f ht hd _ _ hf hr hresult htrace =>
    cases hs.symm.trans ht
    cases hc.symm.trans hd
    rw [hfind] at hr
    refine .inl ⟨(Session.finding_eq_error_iff _ _).1 ⟨f, hf⟩, ⟨f, hresult⟩, hr, ?_⟩
    rw [← events_visible, htrace]
    rfl
  | @lost t d es ds ht hd _ hpending _ hclose hr hresult hes htrace =>
    cases hs.symm.trans ht
    cases hc.symm.trans hd
    refine .inr ⟨Session.not_breaksOff_pending hpending, .inl ⟨hclose, hresult, hr.find,
      ⟨_, hr.session, rfl⟩, ?_, hr.others⟩⟩
    rw [← lastShown_visible, htrace]
    exact lastShown_append_of_some (lastShown_report ..) _
  | @cut t d f es ds ht hd _ hpending _ hclose hr hresult hes htrace =>
    cases hs.symm.trans ht
    cases hc.symm.trans hd
    refine .inr ⟨Session.not_breaksOff_pending hpending,
      .inr ⟨f, hclose, hresult, ⟨_, rfl, hr⟩, ?_⟩⟩
    rw [reported, ← events_visible, htrace]
    exact reported_of_shows hes.shows
  | stray _ _ ht _ _ hne _ _ _ =>
    cases hs.symm.trans ht
    exact absurd hfind hne

end Exit

/-- The exit of a checker is dealt with exactly if the text that it left does not break off and its
standard input can be closed. Otherwise nothing is reported. If the text breaks off, all that
happens is that it is gone: the document keeps its session, which stays open. If standard input
cannot be closed the document loses its session, but the process is not asked to end. -/
theorem exit_cleans_up_iff [Limits] (config : Config) (steps : List Step) {u : String} {id : Nat}
    {s : Session} {c : Child} (hfind : (after steps { config }).find? u = some id)
    (hs : (after steps { config }).session? id = some s)
    (hc : (after steps { config }).child? id = some c) (code : Option Int) :
    let r := after steps { config }
    let o := (handleExit id code).run r
    (CleansUp u id code r o ↔
      ¬Session.BreaksOff s.checkQuery s.lines.pending ∧ c.closeFault? = none) ∧
    (Session.BreaksOff s.checkQuery s.lines.pending →
      (∃ f, o.result = .error f) ∧ Revises u id (some id) (s.withLines {}) c r o.state ∧
      events o.trace = []) ∧
    ∀ f, ¬Session.BreaksOff s.checkQuery s.lines.pending → c.closeFault? = some f →
      o.result = .error f ∧ (∃ t, t.closed = true ∧ Revises u id none t c.shut r o.state) ∧
      reported o.trace = 0 := by
  intro r o
  obtain ⟨t, ht, hu, hopen⟩ := serves_after (standing_start config).serves steps u id hfind
  cases hs.symm.trans ht
  rcases exit_cases hfind hs hc hu hopen code with
    ⟨hbreaks, hresult, hr, hevents⟩ | ⟨hwhole, ⟨hclose, hclean⟩ | ⟨f, hclose, hresult, hr, hnone⟩⟩
  -- in each case the other two are excluded by what they say about the text and the pipe
  · refine ⟨⟨fun hclean => ?_, fun h => absurd hbreaks h.1⟩, fun _ => ⟨hresult, hr, hevents⟩,
      fun _ h => absurd hbreaks h⟩
    obtain ⟨f, hresult⟩ := hresult
    cases hclean.result.symm.trans hresult
  · refine ⟨⟨fun _ => ⟨hwhole, hclose⟩, fun _ => hclean⟩, fun h => absurd h hwhole,
      fun f _ hf => ?_⟩
    cases hclose.symm.trans hf
  · refine ⟨⟨fun hclean => ?_, fun h => ?_⟩, fun h => absurd h hwhole, fun g _ hg => ?_⟩
    · cases hclean.result.symm.trans hresult
    · cases hclose.symm.trans h.2
    · cases hclose.symm.trans hg
      exact ⟨hresult, hr, hnone⟩

/-- A checker leaves a report without a line break. -/
def unterminatedReport (line : Char) : List Step :=
  [.openDocument "a" "x" (some {}), .output 0 (Session.fragmentReport line)]

theorem exit_cleans_up_after_unterminatedReport :
    let r := after (unterminatedReport '1') { config := {} }
    ∃ s c, r.session? 0 = some s ∧ r.child? 0 = some c ∧
      s.lines.pending = Session.fragmentReport '1' ∧
      ¬Session.BreaksOff s.checkQuery s.lines.pending ∧ c.closeFault? = none ∧
      CleansUp "a" 0 (some 1) r ((handleExit 0 (some 1)).run r) := by
  intro r
  have hfind : r.find? "a" = some 0 := by decide +kernel
  have hpending : ((r.session? 0).map (·.lines.pending)) = some (Session.fragmentReport '1') := by
    decide +kernel
  have hcheck : ((r.session? 0).map (·.checkQuery)) = some 2 := by decide +kernel
  have hclose : ((r.child? 0).map (·.stdin)) = some {} := by decide +kernel
  obtain ⟨s, hs, hlines⟩ := Option.map_eq_some_iff.1 hpending
  obtain ⟨c, hc, hstdin⟩ := Option.map_eq_some_iff.1 hclose
  rw [hs, Option.map_some, Option.some.injEq] at hcheck
  have hwhole : ¬Session.BreaksOff s.checkQuery s.lines.pending := by
    have hok : (Session.finding 2 (Session.fragmentReport '1')).isOk = true := by decide +kernel
    rw [hlines, hcheck]
    apply Session.not_breaksOff_pending
    intro _
    cases hf : Session.finding 2 (Session.fragmentReport '1') with
    | error f => simp [hf, Except.isOk, Except.toBool] at hok
    | ok g => exact ⟨g, rfl⟩
  have hclosing : c.closeFault? = none := by rw [Child.closeFault?, hstdin]; rfl
  exact ⟨s, c, hs, hc, hlines, hwhole, hclosing,
    (exit_cleans_up_iff {} (unterminatedReport '1') hfind hs hc (some 1)).1.2 ⟨hwhole, hclosing⟩⟩

/-- The checker counts lines from one. If a report about line zero is the last that it says, its
exit has a fault: the document keeps the session, and the editor is not told. -/
theorem exit_keeps_session_after_misplaced_report :
    let r := after (unterminatedReport '0') { config := {} }
    let o := (handleExit 0 (some 1)).run r
    r.find? "a" = some 0 ∧ o.result.isOk = false ∧ o.state.find? "a" = some 0 ∧
      (o.state.session? 0).map (·.closed) = some false ∧ events o.trace = [] := by
  decide +kernel

end Bridge

end ProverLink
