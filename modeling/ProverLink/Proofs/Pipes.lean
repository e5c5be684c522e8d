import ProverLink.Proofs.Courses

/-!
# Fair pipes

A write on a fair pipe is taken, or it fails in a way that is handled: then the document loses its
session, and nothing is ever written to that session again. How pipes are closed does not matter.
Every step keeps pipes fair.
-/

namespace ProverLink

namespace Child

/-- Whether the next write is taken. -/
def takes (c : Child) : Bool := c.stdin.attached && c.writeError?.isNone

lemma takes_iff (c : Child) (u : String) : c.takes = true ↔ c.writeFault? u = none := by
  rw [takes, writeFault?]
  cases c.stdin.attached with
  | false => simp
  | true => rcases c.writeError? with _ | (e | e | e) <;> simp

lemma IsFair.tried {c : Child} (h : c.IsFair) : c.tried.IsFair := by
  rw [Child.tried, if_pos h.attached]
  exact ⟨h.attached, writesWell_afterWrite h.write⟩

lemma IsFair.shut {c : Child} (h : c.IsFair) : c.shut.IsFair := by
  rw [Child.shut, if_pos h.attached]
  exact ⟨h.attached, h.write⟩

lemma IsFair.released {c : Child} (h : c.IsFair) : c.released.IsFair := by
  rw [Child.released]
  split
  · exact h.shut
  · rw [terminate]
    split <;> exact ⟨h.shut.attached, h.shut.write⟩

end Child

namespace Registry

/-- Whether writing on the pipes of all sessions is fair, those to come included. -/
structure Fair (r : Registry) : Prop where
  plan : r.plan.child.stdin.WritesWell
  pipes : ∀ id s c, r.session? id = some s → r.child? id = some c → c.IsFair

lemma Fair.child {r : Registry} (h : r.Fair) (hattached : r.plan.child.stdin.attached = true) :
    r.plan.child.IsFair := ⟨hattached, h.plan⟩

lemma Fair.revises {r r' : Registry} {u : String} {id : Nat} {found : Option Nat} {s : Session}
    {c : Child}
    (h : r.Fair) (hr : Revises u id found s c r r') (hc : c.IsFair) : r'.Fair := by
  refine ⟨hr.plan ▸ h.plan, fun j t d ht hd => ?_⟩
  rw [hr.session_eq] at ht
  rw [hr.child_eq] at hd
  split at ht
  · rename_i hj
    rw [if_pos hj] at hd
    cases hd
    exact hc
  · rename_i hj
    rw [if_neg hj] at hd
    exact h.pipes j t d ht hd

lemma Fair.vacates {r r' : Registry} {u : String} (h : r.Fair) (hv : Vacates u r r') : r'.Fair := by
  cases hv with
  | free _ => exact h
  | left id s c _ hs hc _ =>
    exact h.revises (revises_release hs hc u) (h.pipes id s c hs hc).released

lemma Fair.extend {r : Registry} (h : r.Fair) : r.extend.Fair := by
  refine ⟨h.plan, fun j s c hs hc => ?_⟩
  rw [session?_extend] at hs
  obtain ⟨c', hc'⟩ := exists_child_of_session hs
  have hj : j ≠ r.slots.length := by
    rintro rfl
    rw [child?, List.getElem?_eq_none (Nat.le_refl _)] at hc'
    cases hc'
  rw [child?_extend, if_neg hj] at hc
  exact h.pipes j s c hs hc

lemma Fair.seats {r r' : Registry} {u : String} (h : r.Fair) (hr : Seats u r r')
    (hattached : r.plan.child.stdin.attached = true) : r'.Fair := by
  refine ⟨hr.plan ▸ h.plan, fun j s c hs hc => ?_⟩
  by_cases hj : j = r.slots.length
  · rw [hj, hr.child, Option.some.injEq] at hc
    exact hc ▸ h.child hattached
  · rw [session?, job?, hr.others j hj] at hs
    rw [child?, hr.others j hj] at hc
    exact h.pipes j s c hs hc

lemma Fair.refusing {r : Registry} {u : String} {id : Nat} {front : List Effect} {s : Session}
    {c : Child}
    {o : Outcome Registry (Option Nat)} (h : r.Fair) (hc : c.IsFair)
    (ho : Refusing u id front s c r o) :
    o.state.Fair := by
  cases ho with
  | lost _ _ _ hr _ _ => exact h.revises hr hc.tried.released
  | cut _ _ _ _ hr _ _ => exact h.revises hr hc.tried.shut
  | wild _ _ _ hr _ _ => exact h.revises hr hc.tried

lemma Fair.sending {r : Registry} {u : String} {id : Nat} {front : List Effect} {s s' : Session}
    {c : Child} {line : List Char} {o : Outcome Registry (Option Nat)} (h : r.Fair) (hc : c.IsFair)
    (ho : Sending u id front s s' c line r o) : o.state.Fair := by
  cases ho with
  | taken _ hr _ _ => exact h.revises hr hc.tried
  | refused ho => exact h.refusing hc ho

lemma Fair.opening {r : Registry} {u text : String} {o : Outcome Registry (Option Nat)} (h : r.Fair)
    (ho : Opening u text r o) : o.state.Fair := by
  cases ho with
  | stuck id s c _ _ hs hc _ hr _ _ => exact h.revises hr (h.pipes id s c hs hc).shut
  | unstarted _ hv _ _ => exact h.vacates hv
  | failed _ hv _ _ => exact h.vacates hv
  | pipeless _ _ _ hv hstate _ _ =>
    rw [hstate]
    exact (h.vacates hv).extend
  | refused _ _ hv hseats ho hattached hstate _ _ =>
    have hattached' := hv.plan ▸ hattached
    rw [hstate]
    exact ((h.vacates hv).seats hseats hattached').refusing (h.child hattached) ho
  | checked _ _ hv hseats _ hwrite hr _ ho hstate _ _ =>
    have hattached := Child.attached_of_writeFault? hwrite
    have hattached' := hv.plan ▸ hattached
    have hseated := (h.vacates hv).seats hseats hattached'
    have hc := (h.child hattached).tried
    rw [hstate]
    exact (hseated.revises hr hc).sending hc ho

lemma Fair.terminate {r : Registry} (h : r.Fair) (id : Nat) :
    ((Registry.terminate id).run r).state.Fair := by
  cases hs : r.session? id with
  | none =>
    rw [run_terminate_of_vacant hs]
    exact h
  | some s =>
    obtain ⟨c, hc⟩ := exists_child_of_session hs
    obtain ⟨job, -, hslot⟩ := exists_slot_of_session hs hc
    have hfair := h.pipes id s c hs hc
    cases hclose : c.closeFault? with
    | none =>
      obtain ⟨tr, -, hrun⟩ := run_terminate_of_none hslot hclose
      rw [hrun]
      exact h.revises (u := "") (revises_updateSlot rfl hslot rfl) hfair.released
    | some f =>
      rw [run_terminate_of_fault hslot hclose]
      exact h.revises (u := "") (revises_updateSlot rfl hslot rfl) hfair.shut

lemma Fair.each_terminate {r : Registry} (h : r.Fair) (ids : List Nat) :
    ((Act.each Registry.terminate ids).run r).state.Fair := by
  induction ids generalizing r with
  | nil => exact h
  | cons id rest ih =>
    rw [Act.each_cons]
    cases hr : ((Registry.terminate id).run r).result with
    | error f =>
      rw [Act.run_bind_error _ _ _ hr]
      exact h.terminate id
    | ok _ =>
      rw [Act.run_bind_ok _ _ _ hr]
      exact ih (h.terminate id)

lemma Fair.close {r : Registry} (h : r.Fair) (hserves : r.Serves) (u : String) :
    ((Registry.close u).run r).state.Fair := by
  rcases close_cases u hserves with
    ⟨tr, r', b, -, hv, hrun⟩ | ⟨id, s, c, f, r', -, hs, hc, -, hr, hrun⟩
  · rw [hrun]
    exact h.vacates hv
  · rw [hrun]
    exact h.revises hr (h.pipes id s c hs hc).shut

lemma Fair.hearing [Limits] {r : Registry} {id : Nat} {text : List Char}
    {o : Outcome Registry Unit} (h : r.Fair) (ho : Hearing id text r o) : o.state.Fair := by
  cases ho with
  | deaf _ ho => rwa [ho]
  | heard _ _ hs hc _ hr _ _ => exact h.revises hr (h.pipes id _ _ hs hc)

lemma Fair.exiting [Limits] {r : Registry} {id : Nat} {code : Option Int}
    {o : Outcome Registry Unit} (h : r.Fair)
    (ho : Exiting id code r o) : o.state.Fair := by
  cases ho with
  | deaf _ ho => rwa [ho]
  | broken _ hs hc _ _ _ hr _ _ => exact h.revises hr (h.pipes id _ _ hs hc)
  | lost _ _ hs hc _ _ _ _ hr _ _ _ => exact h.revises hr (h.pipes id _ _ hs hc).released
  | cut _ _ _ hs hc _ _ _ _ hr _ _ _ => exact h.revises hr (h.pipes id _ _ hs hc).shut
  | stray _ _ hs hc _ _ hr _ _ => exact h.revises hr (h.pipes id _ _ hs hc)

lemma Fair.updateChild {r : Registry} (h : r.Fair) (id : Nat) {f : Child → Child}
    (hf : ∀ c, c.IsFair → (f c).IsFair) : (r.updateChild id f).Fair := by
  refine ⟨h.plan, fun j s c hs hc => ?_⟩
  rw [session?_updateChild] at hs
  rw [child?_updateChild] at hc
  split at hc
  · obtain ⟨d, hd, rfl⟩ := Option.map_eq_some_iff.1 hc
    exact hf d (h.pipes j s d hs hd)
  · exact h.pipes j s c hs hc

lemma Fair.updateJob {r : Registry} (h : r.Fair) (id : Nat) {f : Job → Job}
    (hf : ∀ job, (f job).session = job.session) : (r.updateJob id f).Fair := by
  refine ⟨h.plan, fun j s c hs hc => ?_⟩
  rw [(alike_updateJob r id hf).session] at hs
  rw [child?_updateJob] at hc
  exact h.pipes j s c hs hc

lemma Fair.reap {r : Registry} (h : r.Fair) (id : Nat) : ((Registry.reap id).run r).state.Fair := by
  rw [Registry.reap, Act.run_get_bind]
  split
  · have hjob : (r.updateJob id fun j => { j with reaping := false }).Fair :=
      h.updateJob id fun _ => rfl
    have hkill := hjob.updateChild id (f := Child.kill) fun c hc => by
      rw [Child.kill]
      split <;> exact ⟨hc.attached, hc.write⟩
    rw [Act.run_modify_bind]
    split
    · rw [Act.run_log_bind, Act.run_modify_bind]
      split <;> exact hkill
    · exact hjob
  · exact h

end Registry

namespace Bridge

open Registry

/-- Whether a step keeps the pipes, and every write on them is taken or fails in a way that is
handled. -/
def Step.IsFair : Step → Prop
  | .plan p => p.child.stdin.WritesWell
  | .world change => ∀ id c, c.IsFair → (change id c).IsFair
  | _ => True

lemma Step.IsFair.step [Limits] {st : Step} {r : Registry} (hst : st.IsFair) (h : r.Fair)
    (hserves : r.Serves) :
    (st.act.run r).state.Fair := by
  cases st with
  | openDocument u text path =>
    rcases opening_openStep u text path hserves with ⟨o, ho, hrun⟩ | ⟨f, hrun⟩
    · rw [hrun]
      exact h.opening ho
    · rw [hrun]
      exact h
  | changeDocument u text =>
    rw [act, Act.run_map]
    cases hfind : r.find? u with
    | none =>
      obtain ⟨notice, hrun⟩ := run_changeDocument_of_none hfind text
      rw [hrun]
      exact h
    | some id =>
      obtain ⟨s, hs, hu, -⟩ := hserves u id hfind
      obtain ⟨c, hc⟩ := exists_child_of_session hs
      exact h.sending (h.pipes id s c hs hc)
        (sending_changeDocument hfind hs hc hu (Query.toLine_fullBuffer text _))
  | closeDocument u =>
    rw [act, Act.run_map, Bridge.closeDocument, Act.run_log_bind]
    exact h.close hserves u
  | shutdown =>
    rw [act, Act.run_map]
    exact Fair.each_terminate (r := { r with registered := [] }) ⟨h.plan, h.pipes⟩ _
  | output id text =>
    rw [act, Act.run_map]
    exact h.hearing (hearing_handleOutput id text r)
  | exit id code =>
    rw [act, Act.run_map]
    exact h.exiting (exiting_handleExit id code r)
  | reap id =>
    rw [act, Act.run_map]
    exact h.reap id
  | plan p => exact ⟨hst, h.pipes⟩
  | world change =>
    refine ⟨h.plan, fun j s c hs hc => ?_⟩
    rw [act, Act.run_map, Act.run_modify] at hs hc
    rw [(mapChildren_views change r j).1] at hs
    rw [(mapChildren_views change r j).2] at hc
    obtain ⟨d, hd, rfl⟩ := Option.map_eq_some_iff.1 hc
    exact hst j d (h.pipes j s d hs hd)

end Bridge

end ProverLink
