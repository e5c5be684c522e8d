import ProverLink.Proofs.Exchanges

/-!
# Callbacks

All that can happen when a checker says something or ends. The lines up to the first fault are acted
upon, and the session keeps what came of them. At its end a checker is heard once more; then the
document loses its session and that is reported, unless a line or closing the session has a fault.
-/

namespace ProverLink

lemma Bridge.isOpen_iff (r : Registry) (id : Nat) :
    isOpen r id = true ↔ ∃ s, r.session? id = some s ∧ s.closed = false := by
  rw [isOpen]
  cases r.session? id <;> simp

/-- Whether an event shows something that the checker of a document said. -/
def EditorEvent.Shows (u : String) : EditorEvent → Prop
  | .publish v ds => v = u ∧ ds ≠ []
  | .statusOk v _ => v = u
  | _ => False

/-- A session with other diagnostics and another text pending. -/
def Session.heard (s : Session) (ds : List Diagnostic) (b : LineBuffer) : Session :=
  { s with diagnostics := ds, lines := b }

lemma Finding.shows_of_mem_events {g : Finding} {u : String} {shown : List Diagnostic}
    {e : EditorEvent}
    (h : e ∈ g.events u shown) : e.Shows u := by
  rcases g with _ | range | (_ | ⟨d, ds⟩)
  · cases h
  · cases List.mem_singleton.1 h
    rfl
  · cases h
  · cases List.mem_singleton.1 h
    exact ⟨rfl, by simp⟩

variable [Limits]

/-- The lines that are acted upon: a fault keeps those behind it from being so. -/
def Session.reached (check : Int) (lines : List (List Char)) : List (List Char) :=
  lines.takeWhile fun line => (finding check line).isOk

lemma Session.reached_cons_of_ok {check : Int} {line : List Char} {g : Finding}
    (h : finding check line = .ok g) (rest : List (List Char)) :
    reached check (line :: rest) = line :: reached check rest :=
  List.takeWhile_cons_of_pos (by simp [h, Except.isOk, Except.toBool])

lemma Session.reached_cons_of_error {check : Int} {line : List Char} {f : Fault}
    (h : finding check line = .error f) (rest : List (List Char)) :
    reached check (line :: rest) = [] :=
  List.takeWhile_cons_of_neg (by simp [h, Except.isOk, Except.toBool])

/-- Some lines are acted upon one after the other: each shows something, and the diagnostics that
it gives are put behind those shown before. -/
inductive Session.Hears (u : String) (check : Int) :
    List Diagnostic → List (List Char) → List EditorEvent → List Diagnostic → Prop where
  | nil {ds : List Diagnostic} : Hears u check ds [] [] ds
  | cons {ds ds' : List Diagnostic} {lines : List (List Char)} {es : List EditorEvent}
    (line : List Char) : Hears u check (ds ++ (yield check line).diagnostics) lines es ds' →
    Hears u check ds (line :: lines) ((yield check line).events u ds ++ es) ds'

lemma Session.Hears.shows {u : String} {check : Int} {ds ds' : List Diagnostic}
    {lines : List (List Char)} {es : List EditorEvent} (h : Hears u check ds lines es ds') :
    ∀ e ∈ es, e.Shows u := by
  induction h with
  | nil => exact nofun
  | cons line _ ih =>
    exact List.forall_mem_append.2 ⟨fun _ => Finding.shows_of_mem_events, ih⟩

/-- What a session makes of some lines, up to the first that has a fault. -/
def Session.HearsLines (s : Session) (lines : List (List Char)) (es : List EditorEvent)
    (ds : List Diagnostic) : Prop :=
  Hears s.uri s.checkQuery s.diagnostics (reached s.checkQuery lines) es ds

namespace Session.HearsLines

variable {s : Session} {line : List Char}

lemma of_error {f : Fault} (h : finding s.checkQuery line = .error f) (rest : List (List Char)) :
    s.HearsLines (line :: rest) [] s.diagnostics := by
  rw [HearsLines, reached_cons_of_error h]
  exact .nil

lemma of_ok {g : Finding} (h : finding s.checkQuery line = .ok g) {rest : List (List Char)}
    {es : List EditorEvent} {ds : List Diagnostic}
    (hrest : HearsLines { s with diagnostics :=
      s.diagnostics ++ (yield s.checkQuery line).diagnostics } rest es ds) :
    s.HearsLines (line :: rest) ((yield s.checkQuery line).events s.uri s.diagnostics ++ es)
      ds := by
  rw [HearsLines, reached_cons_of_ok h]
  exact .cons line hrest

end Session.HearsLines

/-- The lines that are reached are acted upon, and nothing else happens. -/
lemma Session.hears_dispatchLines (lines : List (List Char)) (s : Session) :
    ∃ (es : List EditorEvent) (ds : List Diagnostic),
      s.HearsLines lines es ds ∧ visible ((dispatchLines lines).run s).trace = es.map .event ∧
      ((dispatchLines lines).run s).state = { s with diagnostics := ds } := by
  induction lines generalizing s with
  | nil => exact ⟨[], s.diagnostics, .nil, rfl, rfl⟩
  | cons line rest ih =>
    cases hf : finding s.checkQuery line with
    | error f =>
      rw [run_dispatchLines_cons_error hf]
      exact ⟨[], s.diagnostics, .of_error hf rest, rfl, rfl⟩
    | ok g =>
      have hline := reacts_dispatchLine line s
      obtain ⟨es, ds, hes, htrace, hstate⟩ := ih ((dispatchLine line).run s).state
      rw [hline.state] at hes
      rw [run_dispatchLines_cons_ok hf]
      refine ⟨_, ds, .of_ok hf hes, ?_, ?_⟩
      · rw [visible_append, hline.visible, htrace, List.map_append]
        rfl
      · rw [hstate, hline.state]

/-- At the end the pending text breaks off, or it is acted upon. -/
lemma Session.finish_cases (s : Session) :
    (∃ f, s.lines.pending ≠ [] ∧ finding s.checkQuery s.lines.pending = .error f ∧
        finish.run s = { result := .error f, state := s.withLines {} }) ∨
      (s.lines.pending ≠ [] → ∃ g, finding s.checkQuery s.lines.pending = .ok g) ∧
        ∃ (es : List EditorEvent) (ds : List Diagnostic) (ms : List Message) (tr : List Effect),
          s.HearsLines s.lines.flush.1 es ds ∧ visible tr = es.map .event ∧
          finish.run s = { result := .ok ms, state := s.heard ds {}, trace := tr } := by
  obtain ⟨es, ds, hes, htrace, hstate⟩ := hears_dispatchLines s.lines.flush.1 s
  have hok : ∀ ms, ((dispatchLines s.lines.flush.1).run s).result = .ok ms →
      finish.run s = { result := .ok ms, state := s.heard ds {},
                       trace := ((dispatchLines s.lines.flush.1).run s).trace } := by
    intro ms hms
    rw [run_finish, hstate]
    dsimp only
    rw [hms]
    rfl
  cases hp : s.lines.pending with
  | nil =>
    refine .inr ⟨fun h => absurd rfl h, es, ds, [], _, hes, htrace, hok [] ?_⟩
    simp [LineBuffer.flush, hp]
  | cons a rest =>
    have hflush : s.lines.flush.1 = [a :: rest] := by simp [LineBuffer.flush, hp]
    cases hf : finding s.checkQuery (a :: rest) with
    | error f =>
      refine .inl ⟨f, by simp, rfl, ?_⟩
      rw [run_finish, hflush, run_dispatchLines_cons_error hf]
      rfl
    | ok g =>
      have hall : ∀ line ∈ s.lines.flush.1, ∃ g, finding s.checkQuery line = .ok g := by
        intro line hl
        rw [hflush, List.mem_singleton] at hl
        exact ⟨g, hl ▸ hf⟩
      exact .inr ⟨fun _ => ⟨g, rfl⟩, es, ds, _, _, hes, htrace, hok _ (result_dispatchLines hall)⟩

namespace Registry

/-- All that can happen when output of a checker is delivered. -/
inductive Hearing (id : Nat) (text : List Char) (r : Registry) (o : Outcome Registry Unit) :
    Prop where
  /-- Nobody listens. -/
  | deaf : ¬Bridge.isOpen r id = true → o = { result := .ok (), state := r } → Hearing id text r o
  | heard {s : Session} {c : Child} (es : List EditorEvent) (ds : List Diagnostic) :
    r.session? id = some s → r.child? id = some c → s.closed = false →
    Revises s.uri id (r.find? s.uri) (s.heard ds (s.lines.feed text).2) c r o.state →
    s.HearsLines (s.lines.feed text).1 es ds → visible o.trace = es.map .event →
    Hearing id text r o

/-- All that can happen when the end of a checker is delivered. -/
inductive Exiting (id : Nat) (code : Option Int) (r : Registry) (o : Outcome Registry Unit) :
    Prop where
  /-- Nobody listens. -/
  | deaf : ¬Bridge.isOpen r id = true → o = { result := .ok (), state := r } → Exiting id code r o
  /-- The text that was pending is a line that breaks off. -/
  | broken {s : Session} {c : Child} (f : Fault) : r.session? id = some s → r.child? id = some c →
    s.closed = false → s.lines.pending ≠ [] →
    Session.finding s.checkQuery s.lines.pending = .error f →
    Revises s.uri id (r.find? s.uri) (s.withLines {}) c r o.state → o.result = .error f →
    visible o.trace = [] → Exiting id code r o
  /-- The document loses its session, and that is reported. -/
  | lost {s : Session} {c : Child} (es : List EditorEvent) (ds : List Diagnostic) :
    r.session? id = some s → r.child? id = some c → s.closed = false →
    (s.lines.pending ≠ [] → ∃ g, Session.finding s.checkQuery s.lines.pending = .ok g) →
    r.find? s.uri = some id → c.closeFault? = none →
    Revises s.uri id none (s.heard ds {}).ended c.released r o.state → o.result = .ok () →
    s.HearsLines s.lines.flush.1 es ds →
    visible o.trace = es.map .event ++ report s.uri (Bridge.exitMessage code) → Exiting id code r o
  /-- The document loses its session, but there is a fault on the way. -/
  | cut {s : Session} {c : Child} (f : Fault) (es : List EditorEvent) (ds : List Diagnostic) :
    r.session? id = some s → r.child? id = some c → s.closed = false →
    (s.lines.pending ≠ [] → ∃ g, Session.finding s.checkQuery s.lines.pending = .ok g) →
    r.find? s.uri = some id → c.closeFault? = some f →
    Revises s.uri id none (s.heard ds {}).ended c.shut r o.state → o.result = .error f →
    s.HearsLines s.lines.flush.1 es ds → visible o.trace = es.map .event → Exiting id code r o
  /-- The session does not serve its document. -/
  | stray {s : Session} {c : Child} (es : List EditorEvent) (ds : List Diagnostic) :
    r.session? id = some s → r.child? id = some c → s.closed = false → r.find? s.uri ≠ some id →
    Revises s.uri id (r.find? s.uri) (s.heard ds {}) c r o.state →
    s.HearsLines s.lines.flush.1 es ds →
    visible o.trace = es.map .event → Exiting id code r o

end Registry

namespace Bridge

open Registry

lemma hearing_handleOutput (id : Nat) (text : List Char) (r : Registry) :
    Hearing id text r ((handleOutput id text).run r) := by
  rw [handleOutput, Act.run_get_bind]
  split
  · rename_i hopen
    obtain ⟨s, hs, hclosed⟩ := (isOpen_iff r id).1 hopen
    obtain ⟨c, hc⟩ := exists_child_of_session hs
    obtain ⟨es, ds, hes, htrace, hstate⟩ := Session.hears_dispatchLines (s.lines.feed text).1 s
    rw [bind_pure_comp, Act.run_map, run_onSession hs, Session.run_feed]
    refine .heard es ds hs hc hclosed ?_ hes htrace
    rw [hstate]
    exact revises_updateSession rfl hs hc fun _ => _
  · rename_i hopen
    exact .deaf hopen rfl

lemma exiting_handleExit (id : Nat) (code : Option Int) (r : Registry) :
    Exiting id code r ((handleExit id code).run r) := by
  rw [handleExit, Act.run_get_bind]
  split
  · rename_i hopen
    obtain ⟨s, hs, hclosed⟩ := (isOpen_iff r id).1 hopen
    obtain ⟨c, hc⟩ := exists_child_of_session hs
    have hrun := run_onSession hs [] Session.finish
    rcases s.finish_cases with
      ⟨f, hpending, hf, hfinish⟩ | ⟨hpending, es, ds, ms, tr, hes, htr, hfinish⟩
    · rw [hfinish] at hrun
      rw [Act.run_bind_error (f := f) _ _ _ (congrArg Outcome.result hrun), hrun]
      exact .broken f hs hc hclosed hpending hf
        (revises_updateSession rfl hs hc fun _ => s.withLines {}) rfl rfl
    · rw [hfinish] at hrun
      rw [Act.run_bind_ok (a := ms) _ _ _ (congrArg Outcome.result hrun), hrun]
      dsimp only
      have hr := revises_updateSession (u := s.uri) rfl hs hc fun _ => s.heard ds {}
      by_cases hfind : r.find? s.uri = some id
      · have hfind' := hr.find_self.trans hfind
        cases hclose : c.closeFault? with
        | none =>
          obtain ⟨tr', htr', hdiscard⟩ := run_discard_of_none hr.session hr.child hfind' hclose
          have hr' := revises_release hr.session hr.child s.uri
          obtain ⟨tr'', htr'', hreport⟩ := run_transportError_eq s.uri (exitMessage code) _
          rw [Act.run_bind_ok (a := true) _ _ _ (congrArg Outcome.result hdiscard), hdiscard,
            if_pos rfl, hs, Option.map_some, Option.getD_some, bind_pure_comp, Act.run_map, hreport]
          exact .lost es ds hs hc hclosed hpending hfind hclose (hr.trans hr') rfl hes
            (by simp [htr, htr', htr''])
        | some f =>
          obtain ⟨r', hr', hdiscard⟩ := run_discard_of_fault hr.session hr.child hfind' hclose
          rw [Act.run_bind_error (f := f) _ _ _ (congrArg Outcome.result hdiscard), hdiscard]
          exact .cut f es ds hs hc hclosed hpending hfind hclose (hr.trans hr') rfl hes
            (by simp [htr])
      · have hdiscard := run_discard_of_ne hr.session (fun h => hfind (hr.find_self.symm.trans h))
        rw [Act.run_bind_ok (a := false) _ _ _ (congrArg Outcome.result hdiscard), hdiscard]
        exact .stray es ds hs hc hclosed hfind hr hes (by simpa using htr)
  · rename_i hopen
    exact .deaf hopen rfl

end Bridge

end ProverLink
