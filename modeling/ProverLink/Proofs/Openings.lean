import ProverLink.Proofs.Pipes
import ProverLink.Proofs.UnexpectedExits
import ProverLink.Proofs.Upkeep

/-!
# Opening a document

A document that is opened either has a new session that is asked for a check, or it has none and the
editor shows why. Two things stand between. If the new checker takes the text of the document but
not the check, the document has no session, and still the number of a session is given. And a URI
that leads to no path is a fault.
-/

namespace ProverLink

/-! ### How processes start -/

namespace SpawnPlan

/-- What a write meets on a process that is started; none stands for a write that is taken. -/
def meets (p : SpawnPlan) (k : Nat) : Option PipeError := p.script.getD k p.writeError

/-- A process is started with its pipes or the system refuses to, and a write is taken or fails as
it does when the other end is gone. -/
structure IsUsual (p : SpawnPlan) : Prop where
  stdin : p.stdin = true
  stdout : p.stdout = true
  error : ∀ e, p.error = some e → ∃ o, e = .os o
  write : p.child.stdin.WritesWell

/-- A process is started that takes both queries. -/
def Accepts (p : SpawnPlan) : Prop := p.error = none ∧ p.meets 0 = none ∧ p.meets 1 = none

/-- No process is started, or one that does not take the first query. -/
def FailsEarly (p : SpawnPlan) : Prop := p.error ≠ none ∨ p.meets 0 ≠ none

/-- A process is started that takes the first query and not the second. -/
def FailsLate (p : SpawnPlan) : Prop := p.error = none ∧ p.meets 0 = none ∧ p.meets 1 ≠ none

lemma cases (p : SpawnPlan) : p.Accepts ∨ p.FailsEarly ∨ p.FailsLate := by
  by_cases herror : p.error = none
  · by_cases hfirst : p.meets 0 = none
    · by_cases hsecond : p.meets 1 = none
      · exact .inl ⟨herror, hfirst, hsecond⟩
      · exact .inr (.inr ⟨herror, hfirst, hsecond⟩)
    · exact .inr (.inl (.inr hfirst))
  · exact .inr (.inl (.inl herror))

variable {p : SpawnPlan}

lemma Accepts.not_failsEarly (h : p.Accepts) : ¬p.FailsEarly := by
  rintro (herror | hfirst)
  · exact herror h.1
  · exact hfirst h.2.1

lemma FailsLate.not_failsEarly (h : p.FailsLate) : ¬p.FailsEarly := by
  rintro (herror | hfirst)
  · exact herror h.1
  · exact hfirst h.2.1

lemma FailsLate.not_accepts (h : p.FailsLate) : ¬p.Accepts := fun h' => h.2.2 h'.2.2

lemma writeError?_child (p : SpawnPlan) : p.child.writeError? = p.meets 0 := by
  rw [Child.writeError?, meets, child]
  cases p.script <;> simp

lemma writeError?_afterWrite (p : SpawnPlan) : p.child.afterWrite.writeError? = p.meets 1 := by
  rw [Child.writeError?, meets, child, Child.afterWrite]
  rcases p.script with _ | ⟨a, _ | ⟨b, rest⟩⟩ <;> simp

lemma IsUsual.isFair (h : p.IsUsual) : p.child.IsFair := ⟨h.stdin, h.write⟩

lemma IsUsual.writeFault?_iff (h : p.IsUsual) (u : String) :
    p.child.writeFault? u = none ↔ p.meets 0 = none := by
  rw [← Child.takes_iff, Child.takes, h.isFair.attached, writeError?_child, Bool.true_and,
    Option.isNone_iff_eq_none]

lemma IsUsual.writeFault?_tried_iff (h : p.IsUsual) (u : String) :
    p.child.tried.writeFault? u = none ↔ p.meets 1 = none := by
  rw [← Child.takes_iff, Child.takes, h.isFair.tried.attached, Child.tried,
    if_pos h.isFair.attached, writeError?_afterWrite, Bool.true_and, Option.isNone_iff_eq_none]

end SpawnPlan

namespace Registry

/-! ### Runs whose pipes can be closed -/

lemma orderly_after [Limits] {steps : List Bridge.Step} (hsteps : ∀ st ∈ steps, st.IsClean)
    {r : Registry} (h : r.Orderly) (howned : r.Owned) :
    (Bridge.after steps r).Orderly ∧ (Bridge.after steps r).Owned := by
  induction steps generalizing r with
  | nil => exact ⟨h, howned⟩
  | cons st rest ih =>
    rw [List.forall_mem_cons] at hsteps
    have hcompletes := Bridge.completes_of_orderly h st
    exact ih hsteps.2 (h.step hsteps.1) (Bridge.owned_step h.serves howned hcompletes)

/-! ### What is left alone -/

/-- A document may have got another session, and all that it had before are closed. What belongs to
other documents is as it was. -/
structure LeavesOthers (u : String) (r r' : Registry) : Prop where
  find : ∀ v, v ≠ u → r'.find? v = r.find? v
  slots : ∀ j, j < r.slots.length → r.find? u ≠ some j → r'.slots[j]? = r.slots[j]?
  closed : ∀ j s, r.session? j = some s → s.uri = u →
    ∃ s', r'.session? j = some s' ∧ s'.closed = true

lemma lt_length_of_session {r : Registry} {j : Nat} {s : Session} (hs : r.session? j = some s) :
    j < r.slots.length := by
  by_contra hge
  rw [session?, job?, List.getElem?_eq_none (Nat.not_lt.1 hge)] at hs
  cases hs

lemma Vacates.leavesOthers {u : String} {r r' : Registry} (howned : r.Owned)
    (h : Vacates u r r') : LeavesOthers u r r' where
  find v hv := (h.find v).trans (if_neg hv)
  slots j _ hj := by
    cases h with
    | free _ => rfl
    | left id s c hfind hs hc _ =>
      refine (revises_release hs hc u).others j fun hid => hj ?_
      rw [hfind, hid]
  closed j s hs hu := by
    by_cases hj : r.find? u = some j
    · exact ⟨s.ended, by rw [h.session, if_pos hj, hs]; rfl, rfl⟩
    · refine ⟨s, by rw [h.session, if_neg hj, hs], ?_⟩
      cases hclosed : s.closed with
      | true => rfl
      | false => exact absurd (hu ▸ howned j s hs hclosed) hj

/-- What happens to this document and to a new slot is not about others. -/
lemma LeavesOthers.elsewhere {u : String} {r r₁ r₂ : Registry} (h : LeavesOthers u r r₁)
    (hfind : ∀ v, v ≠ u → r₂.find? v = r₁.find? v)
    (hslots : ∀ j, j < r.slots.length → r₂.slots[j]? = r₁.slots[j]?) : LeavesOthers u r r₂ where
  find v hv := (hfind v hv).trans (h.find v hv)
  slots j hlt hj := (hslots j hlt).trans (h.slots j hlt hj)
  closed j s hs hu := by
    obtain ⟨s', hs', hclosed⟩ := h.closed j s hs hu
    refine ⟨s', ?_, hclosed⟩
    rw [session?, job?] at hs' ⊢
    rw [hslots j (lt_length_of_session hs), hs']

lemma LeavesOthers.revises {u : String} {r r₁ r₂ : Registry} {found : Option Nat} {s : Session}
    {c : Child} (h : LeavesOthers u r r₁) (hr : Revises u r.slots.length found s c r₁ r₂) :
    LeavesOthers u r r₂ :=
  h.elsewhere (fun v hv => (hr.find v).trans (if_neg hv)) fun j hj => hr.others j (Nat.ne_of_lt hj)

lemma LeavesOthers.seats {u : String} {r r₁ r₂ : Registry} (h : LeavesOthers u r r₁)
    (hlength : r₁.slots.length = r.slots.length) (hr : Seats u r₁ r₂) : LeavesOthers u r r₂ :=
  h.elsewhere (fun v hv => (hr.find v).trans (if_neg hv))
    fun j hj => hr.others j (hlength ▸ Nat.ne_of_lt hj)

/-- On a fair pipe that can be closed, the document loses its session, and that is reported. -/
lemma Refusing.loses {u : String} {id : Nat} {front : List Effect} {s : Session} {c : Child}
    {r : Registry} {o : Outcome Registry (Option Nat)} (h : Refusing u id front s c r o)
    (hfair : c.IsFair) (hclose : c.closeFault? = none) :
    ∃ e, c.writeFault? u = some (.transport e) ∧
      Revises u id none s.ended c.tried.released r o.state ∧ o.result = .ok none ∧
      visible o.trace = front ++ report u (Fault.transportMessage e) := by
  cases h with
  | lost e hwrite _ hr hresult htrace => exact ⟨e, hwrite, hr, hresult, htrace⟩
  | cut e f _ hf _ _ _ => cases hclose.symm.trans hf
  | wild f hwrite hf _ _ _ =>
    obtain ⟨e, rfl⟩ := hfair.transport hwrite
    exact absurd rfl (hf e)

/-! ### Starting -/

section Starting

variable {r : Registry} (h : r.Orderly) (u : String) (directory : Path) (file : String)

include h

lemma Orderly.run_close_eq : ∃ tr r' b, Vacates u r r' ∧
    (close u).run r = { result := .ok b, state := r', trace := tr } := by
  rcases close_cases u h.serves with
    ⟨tr, r', b, -, hvacates, hclose⟩ | ⟨id, s, c, f, r', -, hs, hc, hf, -, -⟩
  · exact ⟨tr, r', b, hvacates, hclose⟩
  · cases (h.closeFault?_eq_none hs hc).symm.trans hf

lemma Orderly.openSession_of_error {e : OsError} (herror : r.plan.error = some (.os e)) :
    ∃ executable,
      ((openSession u directory file).run r).result = .error (.spawn executable e) := by
  obtain ⟨tr, r', b, hvacates, hclose⟩ := h.run_close_eq u
  rw [openSession, Act.run_bind_ok (a := b) _ _ _ (congrArg Outcome.result hclose), hclose]
  simp only [Act.run_get_bind, Act.run_log_bind]
  have hspawn : ((spawn (r'.config.command file) directory).run r').result
      = .error (.spawn r'.config.executable e) := by
    rw [spawn, Act.run_get_bind, hvacates.plan, herror]
    rfl
  rw [Act.run_bind_error _ _ _ hspawn]
  exact ⟨_, rfl⟩

lemma Orderly.openSession_of_none (hplan : r.plan.IsUsual) (herror : r.plan.error = none) :
    ((openSession u directory file).run r).result = .ok r.slots.length := by
  obtain ⟨tr, r', b, hvacates, hclose⟩ := h.run_close_eq u
  rw [openSession, Act.run_bind_ok (a := b) _ _ _ (congrArg Outcome.result hclose), hclose]
  simp only [Act.run_get_bind, Act.run_log_bind]
  have hspawn : ((spawn (r'.config.command file) directory).run r').result
      = .ok r.slots.length := by
    rw [spawn, Act.run_get_bind, hvacates.plan, herror, ← hvacates.length]
    rfl
  have hpipes : (r'.plan.child.stdin.attached && r'.plan.child.stdout.isSome) = true := by
    simp [hvacates.plan, SpawnPlan.child, hplan.stdin, hplan.stdout]
  rw [Act.run_bind_ok _ _ _ hspawn, if_pos hpipes]
  rfl

end Starting

end Registry

namespace Bridge

open Registry

/-! ### How an opening ends -/

/-- The document has a new session, which is open, has sent two queries, the second of them a check,
and has found nothing yet; its number is given, and the editor shows no diagnostics. -/
structure Opens (u : String) (r : Registry) (o : Outcome Registry Reply) : Prop where
  result : o.result = .ok (.number (some r.slots.length))
  find : o.state.find? u = some r.slots.length
  session : o.state.session? r.slots.length = some { uri := u, lastQuery := 2, checkQuery := 2 }
  shown : lastShown u o.trace = some []

/-- The document has no session, a process that was started has ended or was asked to, and the
editor shows the failure. -/
structure Lacks (u : String) (r : Registry) (o : Outcome Registry Reply) : Prop where
  find : o.state.find? u = none
  gone : ∀ j c, r.slots.length ≤ j → o.state.child? j = some c →
    c.code.isSome = true ∨ c.terminated = true
  shown : ∃ message, lastShown u o.trace = some [.ofFailure message]

/-- The document has no session, and none is given. -/
structure Declines (u : String) (r : Registry) (o : Outcome Registry Reply) : Prop
    extends Lacks u r o where
  result : o.result = .ok (.number none)

/-- The document has no session, but the number of a session is given; that session is closed. -/
structure Misleads (u : String) (r : Registry) (o : Outcome Registry Reply) : Prop
    extends Lacks u r o where
  result : o.result = .ok (.number (some r.slots.length))
  closed : ∃ s, o.state.session? r.slots.length = some s ∧ s.uri = u ∧ s.closed = true

lemma Misleads.not_opens {u : String} {r : Registry} {o : Outcome Registry Reply}
    (h : Misleads u r o) : ¬Opens u r o := fun h' => by cases h.find.symm.trans h'.find

lemma Misleads.not_declines {u : String} {r : Registry} {o : Outcome Registry Reply}
    (h : Misleads u r o) : ¬Declines u r o := fun h' => by cases h.result.symm.trans h'.result

lemma Opens.not_declines {u : String} {r : Registry} {o : Outcome Registry Reply}
    (h : Opens u r o) : ¬Declines u r o := fun h' => by cases h.result.symm.trans h'.result

lemma asked_released (c : Child) :
    c.released.code.isSome = true ∨ c.released.terminated = true := by
  cases h : c.code with
  | none => exact .inr (Child.terminated_released h)
  | some code => exact .inl (by rw [Child.code_released (by rw [h]; rfl), h]; rfl)

/-- A document that has just lost its new session. -/
lemma lacks_of_revises {u : String} {r r₁ : Registry} {s : Session} {c : Child}
    {o : Outcome Registry Reply} (front : List Effect) {message : String}
    (hr : Revises u r.slots.length none s c.released r₁ o.state)
    (hlength : r₁.slots.length = r.slots.length + 1)
    (htrace : visible o.trace = front ++ report u message) : Lacks u r o where
  find := hr.find_self
  gone j c' hj hc' := by
    have hlt : j < o.state.slots.length := by
      by_contra hge
      rw [child?, List.getElem?_eq_none (Nat.not_lt.1 hge)] at hc'
      cases hc'
    have hid : j = r.slots.length := by
      rw [hr.length, hlength] at hlt
      omega
    rw [hid, hr.child] at hc'
    cases hc'
    exact asked_released c
  shown := ⟨message, by
    rw [← lastShown_visible, htrace]
    exact lastShown_append_of_some (lastShown_report ..) _⟩

section Opening

variable {r : Registry} (h : r.Orderly) (howned : r.Owned) (hplan : r.plan.IsUsual)
  (u text : String) (path : Path)

include h howned hplan

lemma declines_of_error {e : PipeError} (herror : r.plan.error = some e) :
    let o := (Reply.number <$> openDocument u text path).run r
    LeavesOthers u r o.state ∧ Declines u r o := by
  intro o
  obtain ⟨e, rfl⟩ := hplan.error e herror
  obtain ⟨executable, hspawn⟩ := h.openSession_of_error u path.parent path.name herror
  obtain ⟨hvacates, hresult, htrace⟩ := openDocument_of_spawn h.serves hspawn text
  have hrun : o = _ := Act.run_map (openDocument u text path) r Reply.number
  rw [hrun]
  refine ⟨hvacates.leavesOthers howned, ⟨?_, ?_, Fault.spawnMessage executable e, ?_⟩, ?_⟩
  · exact (hvacates.find u).trans (if_pos rfl)
  · intro j c hj hc
    dsimp only at hc
    rw [child?, List.getElem?_eq_none (hvacates.length ▸ hj)] at hc
    cases hc
  · dsimp only
    rw [← lastShown_visible, htrace, lastShown_report]
  · dsimp only
    rw [hresult]
    rfl

/-- A process is started. What its pipe does with the two queries decides how the opening ends. -/
lemma ends_of_started (herror : r.plan.error = none) :
    let o := (Reply.number <$> openDocument u text path).run r
    LeavesOthers u r o.state ∧
      (r.plan.Accepts ∧ Opens u r o ∨ r.plan.FailsEarly ∧ Declines u r o ∨
        r.plan.FailsLate ∧ Misleads u r o) := by
  intro o
  have hclose := (isKept_plan r.plan).2
  obtain ⟨hopening, hsession⟩ := opening_of_started h.serves
    (h.openSession_of_none u path.parent path.name hplan herror) text
  have hrun : o = _ := Act.run_map (openDocument u text path) r Reply.number
  rw [hrun]
  cases hopening with
  | stuck id s c f _ hs hc hf _ _ _ => cases (h.closeFault?_eq_none hs hc).symm.trans hf
  | unstarted _ hvacates _ _ =>
    exact absurd ((hvacates.session_eq_none_iff _).2 (session?_length r)) hsession
  | failed _ hvacates _ _ =>
    exact absurd ((hvacates.session_eq_none_iff _).2 (session?_length r)) hsession
  | pipeless f _ _ hvacates hstate _ _ =>
    rw [hstate, session?_extend] at hsession
    exact absurd ((hvacates.session_eq_none_iff _).2 (session?_length r)) hsession
  | refused command directory hvacates hseats hrefused _ hstate hresult htrace =>
    have hothers := (hvacates.leavesOthers howned).seats hvacates.length hseats
    have hlength := hseats.length.trans (congrArg (· + 1) hvacates.length)
    obtain ⟨e, hwrite, hr, hnone, hreport⟩ := hrefused.loses hplan.isFair hclose
    have hfirst : r.plan.meets 0 ≠ none := fun hmeets => by
      cases hwrite.symm.trans ((hplan.writeFault?_iff u).2 hmeets)
    rw [hreport] at htrace
    rw [← hstate] at hr
    refine ⟨hothers.revises hr, .inr (.inl ⟨.inr hfirst,
      lacks_of_revises [_] hr hlength htrace, ?_⟩)⟩
    dsimp only
    rw [hresult, hnone]
    rfl
  | checked command directory hvacates hseats hline hwrite hr hline' hsending hstate hresult
      htrace =>
    have hothers := ((hvacates.leavesOthers howned).seats hvacates.length hseats).revises hr
    have hlength := (hr.length.trans hseats.length).trans (congrArg (· + 1) hvacates.length)
    have hfirst := (hplan.writeFault?_iff u).1 hwrite
    cases hsending with
    | taken hwrite' hr' hsome hsent =>
      have hsecond := (hplan.writeFault?_tried_iff u).1 hwrite'
      rw [← hstate] at hr'
      refine ⟨hothers.revises hr', .inl ⟨⟨herror, hfirst, hsecond⟩, ?_, hr'.find_self, hr'.session,
        ?_⟩⟩
      · dsimp only
        rw [hresult, hsome]
        rfl
      · dsimp only
        rw [← lastShown_visible, htrace, hsent]
        simp [lastShown, clearing, events, Effect.event?, EditorEvent.shown?, List.filterMap]
    | refused hrefused =>
      obtain ⟨e, hwrite', hr', hnone, hreport⟩ :=
        hrefused.loses hplan.isFair.tried (by rwa [Child.closeFault?_tried])
      have hsecond : r.plan.meets 1 ≠ none := fun hmeets => by
        cases hwrite'.symm.trans ((hplan.writeFault?_tried_iff u).2 hmeets)
      rw [hreport] at htrace
      rw [← hstate] at hr'
      refine ⟨hothers.revises hr', .inr (.inr ⟨⟨herror, hfirst, hsecond⟩,
        lacks_of_revises (_ :: _ :: clearing u) hr' hlength htrace, ?_,
        _, hr'.session, rfl, rfl⟩)⟩
      dsimp only
      rw [hresult, hnone]
      rfl

lemma ends_openDocument :
    let o := (Reply.number <$> openDocument u text path).run r
    LeavesOthers u r o.state ∧
      (r.plan.Accepts ∧ Opens u r o ∨ r.plan.FailsEarly ∧ Declines u r o ∨
        r.plan.FailsLate ∧ Misleads u r o) := by
  intro o
  cases herror : r.plan.error with
  | none => exact ends_of_started h howned hplan u text path herror
  | some e =>
    obtain ⟨hothers, hdeclines⟩ := declines_of_error h howned hplan u text path herror
    exact ⟨hothers, .inr (.inl ⟨.inl (by simp [herror]), hdeclines⟩)⟩

end Opening

/-- Whether the path of a document is given, or its URI leads to one. -/
def Leads (u : String) (path : Option Path) : Prop :=
  path = none → ∃ found, Uri.toPath u = .ok found

lemma run_openDocument_of_leads [Limits] {u : String} {path : Option Path} (h : Leads u path)
    (text : String) (r : Registry) : ∃ found, (Step.openDocument u text path).act.run r
      = (Reply.number <$> openDocument u text found).run r := by
  cases path with
  | some found => exact ⟨found, rfl⟩
  | none =>
    obtain ⟨found, hfound⟩ := h rfl
    refine ⟨found, ?_⟩
    rw [Step.act, Act.run_map, Act.run_map, openUri, hfound]
    rfl

lemma run_openDocument_of_error [Limits] {u : String} {problem : Uri.Problem}
    (h : Uri.toPath u = .error problem) (text : String) (r : Registry) :
    (Step.openDocument u text none).act.run r
      = { result := .error (.uri problem), state := r, trace := [] } := by
  rw [Step.act, Act.run_map, openUri, h]
  rfl

/-- In a run whose pipes can be closed, a document is opened or it is not, unless its URI leads to
no path or the new checker takes the first query and not the second. How the process starts and what
it does with the queries decides which it is. In the last case the document has no session, and the
failure is shown, but the number of the closed session is given. If there is no path nothing happens
and there is a fault. -/
theorem opening_is_all_or_nothing_iff [Limits] (config : Config) {steps : List Step}
    (hsteps : ∀ st ∈ steps, st.IsClean) (u text : String) (path : Option Path)
    (hplan : (after steps { config }).plan.IsUsual) :
    let r := after steps { config }
    let o := (Step.openDocument u text path).act.run r
    ((Opens u r o ∨ Declines u r o) ∧ LeavesOthers u r o.state ↔
      Leads u path ∧ ¬r.plan.FailsLate) ∧
    (Leads u path → LeavesOthers u r o.state ∧ (Opens u r o ↔ r.plan.Accepts) ∧
      (Declines u r o ↔ r.plan.FailsEarly) ∧ (Misleads u r o ↔ r.plan.FailsLate)) ∧
    ∀ problem, path = none → Uri.toPath u = .error problem →
      o = { result := .error (.uri problem), state := r, trace := [] } := by
  intro r o
  obtain ⟨horderly, howned⟩ := orderly_after hsteps (orderly_start config)
    (standing_start config).owned
  have hled : Leads u path → LeavesOthers u r o.state ∧ (Opens u r o ↔ r.plan.Accepts) ∧
      (Declines u r o ↔ r.plan.FailsEarly) ∧ (Misleads u r o ↔ r.plan.FailsLate) := by
    intro hleads
    obtain ⟨found, hrun⟩ := run_openDocument_of_leads hleads text r
    have hends := ends_openDocument horderly howned hplan u text found
    rw [← hrun] at hends
    -- the three ways to end exclude each other, and so do the three ways to start
    refine ⟨hends.1, ?_⟩
    rcases hends.2 with ⟨hstart, hend⟩ | ⟨hstart, hend⟩ | ⟨hstart, hend⟩
    · exact ⟨iff_of_true hend hstart, iff_of_false hend.not_declines hstart.not_failsEarly,
        iff_of_false (fun h => h.not_opens hend) fun h => h.not_accepts hstart⟩
    · exact ⟨iff_of_false (fun h => h.not_declines hend) fun h => h.not_failsEarly hstart,
        iff_of_true hend hstart,
        iff_of_false (fun h => h.not_declines hend) fun h => h.not_failsEarly hstart⟩
    · exact ⟨iff_of_false hend.not_opens hstart.not_accepts,
        iff_of_false hend.not_declines hstart.not_failsEarly, iff_of_true hend hstart⟩
  refine ⟨⟨fun h => ?_, fun h => ?_⟩, hled, fun problem hpath hproblem => ?_⟩
  · have hleads : Leads u path := by
      intro hpath
      cases hfound : Uri.toPath u with
      | ok found => exact ⟨found, rfl⟩
      | error problem =>
        have hresult : o.result = .error (.uri problem) := by
          simp only [o, hpath, run_openDocument_of_error hfound]
        rcases h.1 with h | h <;> cases h.result.symm.trans hresult
    refine ⟨hleads, fun hlate => ?_⟩
    have hmisleads := (hled hleads).2.2.2.2 hlate
    exact h.1.elim hmisleads.not_opens hmisleads.not_declines
  · obtain ⟨hothers, hopens, hdeclines, -⟩ := hled h.1
    refine ⟨?_, hothers⟩
    rcases r.plan.cases with hstart | hstart | hstart
    · exact .inl (hopens.2 hstart)
    · exact .inr (hdeclines.2 hstart)
    · exact absurd hstart h.2
  · simp only [o, hpath, run_openDocument_of_error hproblem]

/-- The other end of the pipe is gone by the write `k`. -/
def breaksAt (k : Nat) : SpawnPlan :=
  let gone : OsError := { number := some 32, text := "Broken pipe" }
  { script := List.replicate k none, writeError := some (.os gone), closeError := some gone }

/-- Two documents are open, and then processes are started otherwise. -/
def twoThen (p : SpawnPlan) : List Step :=
  [.openDocument "a" "x" (some {}), .openDocument "b" "y" (some {}), .plan p]

theorem opening_is_nothing_if_first_write_breaks :
    let r := after (twoThen (breaksAt 0)) { config := {} }
    let o := (Step.openDocument "a" "z" (some {})).act.run r
    (∀ st ∈ twoThen (breaksAt 0), st.IsClean) ∧ r.plan.IsUsual ∧ r.plan.FailsEarly ∧
      r.find? "a" = some 0 ∧ Declines "a" r o ∧ LeavesOthers "a" r o.state := by
  intro r o
  have hsteps : ∀ st ∈ twoThen (breaksAt 0), st.IsClean := by simp [twoThen, Step.IsClean]
  have hplan : (breaksAt 0).IsUsual := ⟨rfl, rfl, by rintro e ⟨⟩, by
    simp [Stdin.WritesWell, SpawnPlan.child, breaksAt]⟩
  have hfails : r.plan.FailsEarly := .inr (by decide)
  have h := opening_is_all_or_nothing_iff {} hsteps "a" "z" (some {}) hplan
  obtain ⟨hothers, -, hdeclines, -⟩ := h.2.1 (by rintro ⟨⟩)
  exact ⟨hsteps, hplan, hfails, by decide +kernel, hdeclines.2 hfails, hothers⟩

/-- The pipe breaks between the two queries: the number of a session is given, though the document
has none and that session is closed. And the host in a URI may be cut off. -/
theorem opening_may_be_neither :
    let r := after (twoThen (breaksAt 1)) { config := {} }
    let o := (Step.openDocument "a" "z" (some {})).act.run r
    (o.result.toOption = some (.number (some 2)) ∧ o.state.find? "a" = none ∧
      (o.state.session? 2).map (·.closed) = some true) ∧
    ((Step.openDocument "file://[" "z" none).act.run r).result.isOk = false := by
  decide +kernel

end Bridge

end ProverLink
