import ProverLink.Proofs.Runs

/-!
# How sessions end

What is left of a slot when its session is ended: the session is closed, standard input is closed,
and a process that runs is asked to end. If closing standard input has a fault that nobody handles,
the process is not asked.
-/

namespace ProverLink

/-- A session at its end. -/
def Session.ended (s : Session) : Session := { s with closed := true }

@[simp] lemma Session.ended_ended (s : Session) : s.ended.ended = s.ended := rfl

namespace Child

/-- The fault of closing standard input, if there is a pipe and the fault is one that nobody
handles. -/
def closeFault? (c : Child) : Option Fault :=
  if c.stdin.attached then c.stdin.closeFault? else none

/-- A process whose standard input was closed. -/
def shut (c : Child) : Child :=
  if c.stdin.attached then { c with stdin := { c.stdin with closed := true } } else c

/-- A process that was let go. -/
def released (c : Child) : Child := if c.code.isSome then c.shut else c.shut.terminate

@[simp] lemma code_shut (c : Child) : c.shut.code = c.code := by
  rw [shut]
  split <;> rfl

lemma exists_pipe_of_closeFault? {c : Child} {f : Fault} (h : c.closeFault? = some f) :
    ∃ e, f = .pipe e := by
  rw [closeFault?] at h
  split at h
  · rw [Stdin.closeFault?] at h
    split at h
    · exact ⟨_, (Option.some.inj h).symm⟩
    · exact ⟨_, (Option.some.inj h).symm⟩
    · cases h
  · cases h

end Child

namespace Slot

/-- A slot whose session was ended but whose process was not asked to end. -/
def cut (sl : Slot) : Slot :=
  { child := sl.child.shut, job := sl.job.map fun j => { j with session := j.session.ended } }

/-- A slot whose session was ended. -/
def released (sl : Slot) : Slot :=
  { child := sl.child.released
    job := sl.job.map fun j =>
      { j with session := j.session.ended, reaping := j.reaping || sl.child.code.isNone } }

end Slot

namespace Registry

/-! ### Slots -/

lemma exists_slot_of_session {r : Registry} {id : Nat} {s : Session} {c : Child}
    (hs : r.session? id = some s) (hc : r.child? id = some c) :
    ∃ job, job.session = s ∧ r.slots[id]? = some { child := c, job := some job } := by
  rw [session?, job?] at hs
  rw [child?] at hc
  rcases hslot : r.slots[id]? with _ | ⟨child, _ | job⟩
  · simp [hslot] at hs
  · simp [hslot] at hs
  · simp only [hslot, Option.bind_some, Option.map_some, Option.some.injEq] at hs hc
    exact ⟨job, hs, by rw [hc]⟩

lemma session?_of_slot {r : Registry} {id : Nat} {c : Child} {job : Job}
    (h : r.slots[id]? = some { child := c, job := some job }) :
    r.session? id = some job.session := by
  simp [session?, job?, h]

lemma child?_of_slot {r : Registry} {id : Nat} {sl : Slot} (h : r.slots[id]? = some sl) :
    r.child? id = some sl.child := by
  simp [child?, h]

lemma updateSlot_updateSlot (r : Registry) (id : Nat) (f g : Slot → Slot) :
    (r.updateSlot id f).updateSlot id g = r.updateSlot id (g ∘ f) := by
  simp only [updateSlot, List.modify_modify_eq]

lemma updateSlot_congr {r : Registry} {id : Nat} {sl : Slot} (h : r.slots[id]? = some sl)
    {f g : Slot → Slot} (hfg : f sl = g sl) : r.updateSlot id f = r.updateSlot id g := by
  have hslots : (r.updateSlot id f).slots = (r.updateSlot id g).slots := by
    apply List.ext_getElem?
    intro j
    rw [getElem?_updateSlot, getElem?_updateSlot]
    by_cases hj : id = j
    · subst hj
      simp [h, hfg]
    · simp [hj]
  simp only [updateSlot] at hslots ⊢
  rw [hslots]

lemma updateSlot_id (r : Registry) (id : Nat) : (r.updateSlot id fun sl => sl) = r := by
  have hslots : r.slots.modify id (fun sl => sl) = r.slots := List.modify_id ..
  rw [updateSlot, hslots]

/-! ### Ending the session in a slot -/

lemma run_closeStdin_of_fault {c : Child} {f : Fault} (h : c.closeFault? = some f) (id : Nat)
    (u : String) (r : Registry) :
    (closeStdin id u c).run r
      = { result := .error f,
          state := r.updateChild id fun c =>
            { c with stdin := { c.stdin with closed := true } } } := by
  rw [Child.closeFault?] at h
  split at h
  · rename_i hattached
    rw [closeStdin, if_pos hattached, Act.run_modify_bind]
    rw [Stdin.closeFault?] at h
    split at h
    · rename_i he
      cases h
      rw [he]
      rfl
    · rename_i he
      cases h
      rw [he]
      rfl
    · cases h
  · cases h

/-- Standard input is closed. -/
lemma run_closeStdin_of_none {r : Registry} {id : Nat} {sl : Slot} (hslot : r.slots[id]? = some sl)
    {c : Child} (hattached : sl.child.stdin.attached = c.stdin.attached) (h : c.closeFault? = none)
    (u : String) :
    ∃ tr, visible tr = [] ∧ (closeStdin id u c).run r
      = { result := .ok (), state := r.updateChild id Child.shut, trace := tr } := by
  rw [closeStdin]
  cases ha : c.stdin.attached with
  | false =>
    have hself : r.updateChild id Child.shut = r := by
      refine (updateSlot_congr hslot ?_).trans (updateSlot_id r id)
      simp [Child.shut, hattached, ha]
    rw [hself]
    exact ⟨[], rfl, rfl⟩
  | true =>
    have hshut : (r.updateChild id fun c => { c with stdin := { c.stdin with closed := true } })
        = r.updateChild id Child.shut := by
      refine updateSlot_congr hslot ?_
      simp [Child.shut, hattached, ha]
    rw [Child.closeFault?, if_pos ha, Stdin.closeFault?] at h
    rw [if_pos rfl, Act.run_modify_bind, hshut]
    rcases he : c.stdin.closeError with _ | (e | e | e)
    · exact ⟨[], rfl, rfl⟩
    · exact ⟨_, rfl, rfl⟩
    · simp [he] at h
    · simp [he] at h

lemma run_requestEnd {r : Registry} {id : Nat} {sl : Slot} (hslot : r.slots[id]? = some sl)
    {c : Child}
    (hcode : sl.child.code = c.code) (u : String) :
    ∃ tr, visible tr = [] ∧ (requestEnd id u c).run r
      = { result := .ok (),
          state := r.updateSlot id fun sl =>
            { child := if sl.child.code.isSome then sl.child else sl.child.terminate
              job := sl.job.map fun j => { j with reaping := j.reaping || sl.child.code.isNone } },
          trace := tr } := by
  rw [requestEnd]
  cases hc : c.code with
  | some code =>
    refine ⟨[], rfl, ?_⟩
    rw [updateSlot_congr (g := fun sl => sl) hslot (by simp [hcode, hc]), updateSlot_id]
    rfl
  | none =>
    refine ⟨[.notice (.terminating u)], rfl, ?_⟩
    rw [Act.run_log_bind, Act.run_modify_bind, Act.run_modify, updateChild, updateJob,
      updateSlot_updateSlot]
    dsimp only
    congr 1
    refine updateSlot_congr hslot ?_
    simp [hcode, hc]

lemma run_terminate_eq {r : Registry} {id : Nat} {c : Child} {job : Job}
    (hslot : r.slots[id]? = some { child := c, job := some job }) :
    (terminate id).run r
      = (closeStdin id job.session.uri c >>= fun _ => requestEnd id job.session.uri c).run
          (r.updateSession id Session.ended) := by
  rw [terminate, Act.run_get_bind, session?_of_slot hslot, child?_of_slot hslot]
  rfl

/-- There is no session to be ended. -/
lemma run_terminate_of_vacant {r : Registry} {id : Nat} (h : r.session? id = none) :
    (terminate id).run r = { result := .ok (), state := r } := by
  rw [terminate, Act.run_get_bind, h]
  rfl

/-- The session in a slot is ended. -/
lemma run_terminate_of_none {r : Registry} {id : Nat} {c : Child} {job : Job}
    (hslot : r.slots[id]? = some { child := c, job := some job }) (h : c.closeFault? = none) :
    ∃ tr, visible tr = [] ∧ (terminate id).run r
      = { result := .ok (), state := r.updateSlot id Slot.released, trace := tr } := by
  have hslot₁ : (r.updateSession id Session.ended).slots[id]?
      = some { child := c, job := some { job with session := job.session.ended } } := by
    rw [updateSession, updateJob, getElem?_updateSlot, if_pos rfl, hslot]
    rfl
  obtain ⟨tr₁, htr₁, hclose⟩ := run_closeStdin_of_none hslot₁ (c := c) rfl h job.session.uri
  have hslot₂ : ((r.updateSession id Session.ended).updateChild id Child.shut).slots[id]?
      = some { child := c.shut, job := some { job with session := job.session.ended } } := by
    rw [updateChild, getElem?_updateSlot, if_pos rfl, hslot₁]
    rfl
  obtain ⟨tr₂, htr₂, hrequest⟩ := run_requestEnd hslot₂ (c := c) c.code_shut job.session.uri
  refine ⟨tr₁ ++ tr₂, by simp [htr₁, htr₂], ?_⟩
  rw [run_terminate_eq hslot, Act.run_bind_ok (a := ()) _ _ _ (congrArg Outcome.result hclose),
    hclose, hrequest]
  -- the three changes of the slot come to one
  simp only [updateSession, updateJob, updateChild, updateSlot_updateSlot]
  congr 1
  refine updateSlot_congr hslot ?_
  simp [Slot.released, Child.released]

/-- The session in a slot is ended, but there is a fault on the way. -/
lemma run_terminate_of_fault {r : Registry} {id : Nat} {c : Child} {job : Job} {f : Fault}
    (hslot : r.slots[id]? = some { child := c, job := some job }) (h : c.closeFault? = some f) :
    (terminate id).run r = { result := .error f, state := r.updateSlot id Slot.cut } := by
  have hclose := run_closeStdin_of_fault h id job.session.uri (r.updateSession id Session.ended)
  rw [run_terminate_eq hslot, Act.run_bind_error (f := f) _ _ _ (congrArg Outcome.result hclose),
    hclose]
  simp only [updateSession, updateJob, updateChild, updateSlot_updateSlot]
  congr 1
  refine updateSlot_congr hslot ?_
  have hattached : c.stdin.attached = true := by
    rw [Child.closeFault?] at h
    split at h
    · assumption
    · cases h
  simp [Slot.cut, Child.shut, hattached]

/-! ### A change in one slot -/

/-- One document is found elsewhere or not at all, one slot has another session and another process,
and all else is as it was. -/
structure Revises (u : String) (id : Nat) (found : Option Nat) (s : Session) (c : Child)
    (r r' : Registry) : Prop where
  find : ∀ v, r'.find? v = if v = u then found else r.find? v
  session : r'.session? id = some s
  child : r'.child? id = some c
  others : ∀ j, j ≠ id → r'.slots[j]? = r.slots[j]?
  length : r'.slots.length = r.slots.length
  plan : r'.plan = r.plan

namespace Revises

variable {u : String} {id : Nat} {found : Option Nat} {s : Session} {c : Child}
  {r r' r'' : Registry}

lemma find_self (h : Revises u id found s c r r') : r'.find? u = found := by
  rw [h.find, if_pos rfl]

lemma session_eq (h : Revises u id found s c r r') (j : Nat) :
    r'.session? j = if j = id then some s else r.session? j := by
  split
  · rename_i hj
    rw [hj, h.session]
  · rename_i hj
    rw [session?, job?, h.others j hj]
    rfl

lemma child_eq (h : Revises u id found s c r r') (j : Nat) :
    r'.child? j = if j = id then some c else r.child? j := by
  split
  · rename_i hj
    rw [hj, h.child]
  · rename_i hj
    rw [child?, h.others j hj]
    rfl

/-- Of two changes in one slot, the one can be made behind the other. -/
lemma rebase {found' : Option Nat} {s' : Session} {c' : Child} (h : Revises u id found s c r r')
    (h' : Revises u id found' s' c' r r'') : Revises u id found' s' c' r' r'' where
  find v := by
    rw [h'.find, h.find]
    split <;> rfl
  session := h'.session
  child := h'.child
  others j hj := (h'.others j hj).trans (h.others j hj).symm
  length := h'.length.trans h.length.symm
  plan := h'.plan.trans h.plan.symm

lemma trans {found' : Option Nat} {s' : Session} {c' : Child} (h : Revises u id found s c r r')
    (h' : Revises u id found' s' c' r' r'') : Revises u id found' s' c' r r'' where
  find v := by
    rw [h'.find, h.find]
    split <;> rfl
  session := h'.session
  child := h'.child
  others j hj := (h'.others j hj).trans (h.others j hj)
  length := h'.length.trans h.length
  plan := h'.plan.trans h.plan

end Revises

lemma revises_updateSlot {r : Registry} {u : String} {id : Nat} {found : Option Nat} {sl : Slot}
    {f : Slot → Slot} {c : Child} {job : Job} (hfind : r.find? u = found)
    (hslot : r.slots[id]? = some sl)
    (hf : f sl = { child := c, job := some job }) :
    Revises u id found job.session c r (r.updateSlot id f) := by
  have hslot' : (r.updateSlot id f).slots[id]? = some { child := c, job := some job } := by
    rw [getElem?_updateSlot, if_pos rfl, hslot, Option.map_some, hf]
  refine ⟨fun v => ?_, session?_of_slot hslot', child?_of_slot hslot', fun j hj => ?_, ?_, rfl⟩
  · split
    · rename_i hv
      exact hv ▸ hfind
    · rfl
  · rw [getElem?_updateSlot, if_neg (Ne.symm hj)]
  · exact List.length_modify ..

/-- A new session in a slot. -/
lemma revises_updateSession {r : Registry} {u : String} {id : Nat} {found : Option Nat}
    {s : Session}
    {c : Child} (hfind : r.find? u = found) (hs : r.session? id = some s)
    (hc : r.child? id = some c)
    (f : Session → Session) : Revises u id found (f s) c r (r.updateSession id f) := by
  obtain ⟨job, rfl, hslot⟩ := exists_slot_of_session hs hc
  let job' : Job := { job with session := f job.session }
  exact revises_updateSlot hfind hslot (c := c)
    (show _ = ({ child := c, job := some job' } : Slot) from rfl)

/-- A new process in a slot. -/
lemma revises_updateChild {r : Registry} {u : String} {id : Nat} {found : Option Nat} {s : Session}
    {c : Child} (hfind : r.find? u = found) (hs : r.session? id = some s)
    (hc : r.child? id = some c)
    (f : Child → Child) : Revises u id found s (f c) r (r.updateChild id f) := by
  obtain ⟨job, rfl, hslot⟩ := exists_slot_of_session hs hc
  exact revises_updateSlot hfind hslot rfl

/-! ### Losing a session -/

/-- A document loses the session in a slot. -/
def release (u : String) (id : Nat) (r : Registry) : Registry :=
  (r.unregister u).updateSlot id Slot.released

section Losing

variable {r : Registry} {id : Nat} {s : Session} {c : Child} (hs : r.session? id = some s)
  (hc : r.child? id = some c)

include hs hc

lemma revises_unregister_updateSlot (u : String) {f : Slot → Slot} {s' : Session} {c' : Child}
    (hf : ∀ job, job.session = s → ∃ job', job'.session = s' ∧
      f { child := c, job := some job } = { child := c', job := some job' }) :
    Revises u id none s' c' r ((r.unregister u).updateSlot id f) := by
  obtain ⟨job, hjob, hslot⟩ := exists_slot_of_session hs hc
  obtain ⟨job', rfl, hjob'⟩ := hf job hjob
  have hfree : (r.unregister u).find? u = none := by rw [find?_unregister, if_pos rfl]
  have hlast := revises_updateSlot (r := r.unregister u) hfree hslot hjob'
  refine ⟨fun v => ?_, hlast.session, hlast.child, hlast.others, hlast.length, rfl⟩
  rw [hlast.find, find?_unregister]
  split <;> rfl

lemma revises_release (u : String) : Revises u id none s.ended c.released r (r.release u id) :=
  revises_unregister_updateSlot hs hc u fun _ hjob => ⟨_, congrArg Session.ended hjob, rfl⟩

lemma run_terminate_unregister_of_none (h : c.closeFault? = none) (u : String) :
    ∃ tr, visible tr = [] ∧ (terminate id).run (r.unregister u)
      = { result := .ok (), state := r.release u id, trace := tr } := by
  obtain ⟨job, -, hslot⟩ := exists_slot_of_session hs hc
  exact run_terminate_of_none (r := r.unregister u) hslot h

/-- A document loses its session, but there is a fault on the way. -/
lemma run_terminate_unregister_of_fault {f : Fault} (h : c.closeFault? = some f) (u : String) :
    ∃ r', Revises u id none s.ended c.shut r r' ∧
      (terminate id).run (r.unregister u) = { result := .error f, state := r' } := by
  obtain ⟨job, hjob, hslot⟩ := exists_slot_of_session hs hc
  refine ⟨_, revises_unregister_updateSlot hs hc u fun job hjob => ?_,
    run_terminate_of_fault (r := r.unregister u) hslot h⟩
  exact ⟨_, congrArg Session.ended hjob, rfl⟩

lemma run_discard_of_none (hfind : r.find? s.uri = some id) (h : c.closeFault? = none) :
    ∃ tr, visible tr = [] ∧ (discard id).run r
      = { result := .ok true, state := r.release s.uri id, trace := tr } := by
  obtain ⟨tr, htr, hrun⟩ := run_terminate_unregister_of_none hs hc h s.uri
  refine ⟨tr, htr, ?_⟩
  rw [discard, Act.run_get_bind]
  simp only [hs, hfind, if_true, Act.run_modify_bind, bind_pure_comp, Act.run_map, hrun]
  rfl

lemma run_discard_of_fault {f : Fault} (hfind : r.find? s.uri = some id)
    (h : c.closeFault? = some f) :
    ∃ r', Revises s.uri id none s.ended c.shut r r' ∧
      (discard id).run r = { result := .error f, state := r' } := by
  obtain ⟨r', hr, hrun⟩ := run_terminate_unregister_of_fault hs hc h s.uri
  refine ⟨r', hr, ?_⟩
  rw [discard, Act.run_get_bind]
  simp only [hs, hfind, if_true, Act.run_modify_bind, bind_pure_comp, Act.run_map, hrun]
  rfl

end Losing

/-- A session that does not serve its document is left alone. -/
lemma run_discard_of_ne {r : Registry} {id : Nat} {s : Session} (hs : r.session? id = some s)
    (hfind : r.find? s.uri ≠ some id) :
    (discard id).run r = { result := .ok false, state := r } := by
  rw [discard, Act.run_get_bind]
  simp only [hs, hfind, if_false]
  rfl

end Registry

end ProverLink
