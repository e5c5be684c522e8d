import Mathlib.Data.List.Nodup
import ProverLink.Proofs.Courses
import ProverLink.Proofs.Exchanges

/-!
# Who owns which process

Whatever is asked of the registry, in whatever order, and whatever the processes do in the meantime:
each document has at most one session and each session a process of its own, a session serves its
document exactly as long as it is open, the process of an open session is left alone, and every
other process is let go.
-/

namespace ProverLink

namespace Child

/-- What a process may do by itself. It may end, and then it stays ended; it may take requests in
any way; its pipes may fail in any way, but not so that closing standard input has a fault. -/
structure Becomes (c c' : Child) : Prop where
  terminated : c'.terminated = c.terminated
  killed : c'.killed = c.killed
  closed : c'.stdin.closed = c.stdin.closed
  attached : c'.stdin.attached = c.stdin.attached
  code : c.code.isSome = true → c'.code = c.code
  closing : c.closeFault? = none → c'.closeFault? = none

/-- A process that is left alone. -/
structure IsKept (c : Child) : Prop where
  terminated : c.terminated = false
  killed : c.killed = false
  closed : c.stdin.closed = false

/-- A process that was let go. It has lost its standard input. It has ended, or it was asked to; and
if that did not help it was killed, or a reaper still waits. -/
structure IsLetGo (c : Child) (reaping : Bool) : Prop where
  closed : c.stdin.closed = true
  asked : c.code.isSome = true ∨ c.terminated = true
  killed : c.code = none → c.killed = true ∨ reaping = true

variable {c c' : Child} {reaping : Bool}

lemma IsKept.becomes (h : c.IsKept) (hc : c.Becomes c') : c'.IsKept :=
  ⟨hc.terminated.trans h.terminated, hc.killed.trans h.killed, hc.closed.trans h.closed⟩

lemma IsLetGo.becomes (h : c.IsLetGo reaping) (hc : c.Becomes c') : c'.IsLetGo reaping := by
  refine ⟨hc.closed.trans h.closed, ?_, fun hcode => ?_⟩
  · rcases h.asked with hcode | hasked
    · rw [hc.code hcode]
      exact .inl hcode
    · exact .inr (hc.terminated.trans hasked)
  · rw [hc.killed]
    apply h.killed
    rw [← Option.not_isSome_iff_eq_none]
    intro hsome
    rw [← hc.code hsome, hcode] at hsome
    cases hsome

lemma stdin_released (hattached : c.stdin.attached = true) :
    c.released.stdin = { c.stdin with closed := true } := by
  rw [released, shut, if_pos hattached]
  split
  · rfl
  · rw [terminate]
    split <;> rfl

lemma code_released (h : c.code.isSome = true) : c.released.code = c.code := by
  rw [released, if_pos h, code_shut]

lemma terminated_released (h : c.code = none) : c.released.terminated = true := by
  rw [released, h]
  simp only [Option.isSome_none, Bool.false_eq_true, if_false, terminate]
  split <;> rfl

/-- A process that is let go starts a reaper if it has not ended. -/
lemma isLetGo_released (hattached : c.stdin.attached = true) (reaping : Bool) :
    c.released.IsLetGo (reaping || c.code.isNone) := by
  refine ⟨by rw [stdin_released hattached], ?_, fun hnone => ?_⟩
  · cases h : c.code with
    | none => exact .inr (terminated_released h)
    | some code => exact .inl (by rw [code_released (by rw [h]; rfl), h]; rfl)
  · right
    cases h : c.code with
    | none => simp
    | some code =>
      rw [code_released (by rw [h]; rfl), h] at hnone
      cases hnone

lemma IsLetGo.of_ended (h : c.IsLetGo reaping) (hcode : c.code.isNone = false) :
    c.IsLetGo false := by
  refine ⟨h.closed, h.asked, fun hnone => ?_⟩
  rw [hnone] at hcode
  cases hcode

lemma IsLetGo.kill (h : c.IsLetGo reaping) : c.kill.IsLetGo false := by
  have hasked : c.terminated = true ∨ c.kill.code.isSome = true := by
    rcases h.asked with hcode | hasked
    · right
      rw [Child.kill]
      split
      · exact hcode
      · simp [exit]
    · exact .inl hasked
  have hparts : c.kill.stdin = c.stdin ∧ c.kill.terminated = c.terminated ∧
      c.kill.killed = true := by
    rw [Child.kill]
    split <;> exact ⟨rfl, rfl, rfl⟩
  obtain ⟨hstdin, hterminated, hkilled⟩ := hparts
  refine ⟨by rw [hstdin]; exact h.closed, ?_, fun _ => .inl hkilled⟩
  rw [hterminated]
  exact hasked.symm

end Child

/-- Whether the process in a slot is as its session wants it. -/
def Slot.IsSound (sl : Slot) : Prop :=
  ∀ job, sl.job = some job → sl.child.stdin.attached = true ∧ sl.child.closeFault? = none ∧
    (job.session.closed = false → sl.child.IsKept ∧ job.reaping = false) ∧
    (job.session.closed = true → sl.child.IsLetGo job.reaping)

lemma Slot.IsSound.released {sl : Slot} (h : sl.IsSound) : sl.released.IsSound := by
  intro job hjob
  obtain ⟨job₀, hjob₀, rfl⟩ := Option.map_eq_some_iff.1 hjob
  obtain ⟨hattached, hclosing, -, -⟩ := h job₀ hjob₀
  have hstdin := Child.stdin_released hattached
  have hclosing' : sl.child.released.closeFault? = none := by
    rw [Child.closeFault?, hstdin]
    exact hclosing
  refine ⟨(congrArg Stdin.attached hstdin).trans hattached, hclosing', fun hopen => ?_, fun _ => ?_⟩
  · cases hopen
  · exact Child.isLetGo_released hattached _

namespace Registry

/-! ### Calls and what happens in between -/

/-- A call on the registry, or something that happens between calls. -/
inductive Turn where
  | openSession (uri : String) (directory : Path) (file : String)
  | close (uri : String)
  | discard (slot : Nat)
  | closeAll
  /-- The reaper of a slot has its turn. -/
  | reap (slot : Nat)
  /-- From now on processes start in another way. -/
  | plan (p : SpawnPlan)
  /-- The processes change. -/
  | world (change : Nat → Child → Child)

/-- What is done in a turn. -/
def Turn.act : Turn → Act Registry (Option Nat)
  | .openSession uri directory file => some <$> Registry.openSession uri directory file
  | .close uri => (fun _ => none) <$> Registry.close uri
  | .discard id => (fun _ => none) <$> Registry.discard id
  | .closeAll => (fun _ => none) <$> Registry.closeAll
  | .reap id => (fun _ => none) <$> Registry.reap id
  | .plan p => (fun _ => none) <$> Act.modify fun r => { r with plan := p }
  | .world change => (fun _ => none) <$> Act.modify (mapChildren change)

/-- Whether processes do in a turn only what they may do. -/
def Turn.IsLawful : Turn → Prop
  | .world change => ∀ id, ∀ c : Child, c.Becomes (change id c)
  | _ => True

/-- The registry after some turns. -/
def afterTurns : List Turn → Registry → Registry
  | [], r => r
  | t :: rest, r => afterTurns rest (t.act.run r).state

/-- The slots of the sessions that were created in some turns. -/
def created : List Turn → Registry → List Nat
  | [], _ => []
  | t :: rest, r => (t.act.run r).result.toOption.join.toList ++ created rest (t.act.run r).state

/-! ### The invariant -/

/-- The documents, the sessions and the processes belong together. -/
structure Sound (r : Registry) : Prop where
  keys : (r.registered.map (·.1)).Nodup
  serves : r.Serves
  owned : r.Owned
  slots : ∀ sl ∈ r.slots, sl.IsSound

/-- Some slots have been released, and their documents are not found any more. -/
structure Releases (gone : List Nat) (r r' : Registry) : Prop where
  registered : r'.registered.Sublist r.registered
  find : ∀ v, r'.find? v = (r.find? v).filter (· ∉ gone)
  slots : ∀ j, r'.slots[j]? = if j ∈ gone then r.slots[j]?.map Slot.released else r.slots[j]?

lemma Releases.session {gone : List Nat} {r r' : Registry} (h : Releases gone r r') (j : Nat) :
    r'.session? j = if j ∈ gone then (r.session? j).map Session.ended else r.session? j := by
  rw [session?, job?, h.slots, session?, job?]
  split
  · rcases r.slots[j]? with _ | ⟨c, _ | job⟩ <;> rfl
  · rfl

lemma Sound.releases {gone : List Nat} {r r' : Registry} (h : r.Sound) (hr : Releases gone r r') :
    r'.Sound where
  keys := (hr.registered.map _).nodup h.keys
  serves u id hfind := by
    rw [hr.find, Option.filter_eq_some_iff] at hfind
    obtain ⟨hfind, hid⟩ := hfind
    rw [decide_eq_true_eq] at hid
    rw [hr.session, if_neg hid]
    exact h.serves u id hfind
  owned id s hs hopen := by
    rw [hr.session] at hs
    split at hs
    · obtain ⟨t, -, rfl⟩ := Option.map_eq_some_iff.1 hs
      cases hopen
    · rename_i hid
      rw [hr.find, h.owned id s hs hopen]
      simp [hid]
  slots sl hsl := by
    obtain ⟨j, hj⟩ := List.mem_iff_getElem?.1 hsl
    rw [hr.slots] at hj
    split at hj
    · obtain ⟨sl₀, hsl₀, rfl⟩ := Option.map_eq_some_iff.1 hj
      exact (h.slots sl₀ (List.mem_of_getElem? hsl₀)).released
    · exact h.slots sl (List.mem_of_getElem? hj)

lemma releases_nil (r : Registry) : Releases [] r r :=
  ⟨.refl _, fun v => by cases r.find? v <;> simp [Option.filter], fun j => by simp⟩

lemma releases_release {r : Registry} {u : String} {id : Nat} (h : r.Serves)
    (hfind : r.find? u = some id) : Releases [id] r (r.release u id) where
  registered := List.filter_sublist
  find v := by
    have hv : (r.release u id).find? v = (r.unregister u).find? v := rfl
    rw [hv, find?_unregister]
    split
    · rename_i hvu
      simp [hvu, hfind, Option.filter]
    · rename_i hne
      cases hj : r.find? v with
      | none => rfl
      | some j =>
        have hid : j ≠ id := fun hid => hne (h.injective hj (hid ▸ hfind))
        simp [hid, Option.filter]
  slots j := by
    rw [release, getElem?_updateSlot]
    simp only [List.mem_singleton, eq_comm (a := j)]
    rfl

lemma Vacates.releases {r r' : Registry} {u : String} (hv : Vacates u r r') (h : r.Serves) :
    Releases (r.find? u).toList r r' := by
  cases hv with
  | free hfree =>
    rw [hfree]
    exact releases_nil r
  | left id s c hfind _ _ _ =>
    rw [hfind]
    exact releases_release h hfind

/-! ### Closing -/

lemma mem_registered_iff {r : Registry} (h : (r.registered.map (·.1)).Nodup) {u : String}
    {id : Nat} :
    (u, id) ∈ r.registered ↔ r.find? u = some id := by
  constructor
  · intro hmem
    cases hfirst : r.registered.find? fun e => e.1 = u with
    | none =>
      have hnone := List.find?_eq_none.1 hfirst _ hmem
      simp at hnone
    | some e =>
      have hkey : e.1 = u := by simpa using List.find?_some hfirst
      have he : e = (u, id) :=
        List.inj_on_of_nodup_map h (List.mem_of_find?_eq_some hfirst) hmem hkey
      rw [find?, hfirst, he]
      rfl
  · intro hfind
    obtain ⟨e, he, rfl⟩ := Option.map_eq_some_iff.1 hfind
    have hkey : e.1 = u := by simpa using List.find?_some he
    rw [← hkey]
    exact List.mem_of_find?_eq_some he

lemma nodup_slots {r : Registry} (hkeys : (r.registered.map (·.1)).Nodup) (h : r.Serves) :
    (r.registered.map (·.2)).Nodup := by
  refine (List.Nodup.of_map _ hkeys).map_on fun e he e' he' hslot => ?_
  have hfind := (mem_registered_iff hkeys).1 he
  have hfind' := (mem_registered_iff hkeys).1 he'
  rw [← hslot] at hfind'
  exact Prod.ext (h.injective hfind hfind') hslot

lemma Sound.nodup_slots {r : Registry} (h : r.Sound) : (r.registered.map (·.2)).Nodup :=
  Registry.nodup_slots h.keys h.serves

lemma Sound.closeFault?_eq_none {r : Registry} (h : r.Sound) {id : Nat} {s : Session} {c : Child}
    (hs : r.session? id = some s) (hc : r.child? id = some c) : c.closeFault? = none := by
  obtain ⟨job, -, hslot⟩ := exists_slot_of_session hs hc
  exact (h.slots _ (List.mem_of_getElem? hslot) job rfl).2.1

/-- Sessions end one after the other. -/
lemma run_each_terminate_of_none {ids : List Nat} (hids : ids.Nodup) {r : Registry}
    (h : ∀ id ∈ ids, ∃ c job, r.slots[id]? = some { child := c, job := some job } ∧
      c.closeFault? = none) :
    ((Act.each terminate ids).run r).result = .ok () ∧
      ((Act.each terminate ids).run r).state.registered = r.registered ∧
      ∀ j, ((Act.each terminate ids).run r).state.slots[j]?
        = if j ∈ ids then r.slots[j]?.map Slot.released else r.slots[j]? := by
  induction ids generalizing r with
  | nil => exact ⟨rfl, rfl, fun j => by simp; rfl⟩
  | cons id rest ih =>
    obtain ⟨hid, hrest⟩ := List.nodup_cons.1 hids
    obtain ⟨c, job, hslot, hclose⟩ := h id List.mem_cons_self
    obtain ⟨tr, -, hrun⟩ := run_terminate_of_none hslot hclose
    have hlater : ∀ j ∈ rest, ∃ c job, (r.updateSlot id Slot.released).slots[j]?
        = some { child := c, job := some job } ∧ c.closeFault? = none := by
      intro j hj
      have hne : id ≠ j := fun he => hid (he ▸ hj)
      rw [getElem?_updateSlot, if_neg hne]
      exact h j (List.mem_cons_of_mem _ hj)
    obtain ⟨hresult, hregistered, hslots⟩ := @ih hrest (r.updateSlot id Slot.released) hlater
    rw [Act.each_cons, Act.run_bind_ok (a := ()) _ _ _ (congrArg Outcome.result hrun), hrun]
    refine ⟨hresult, hregistered, fun j => ?_⟩
    dsimp only
    rw [hslots, getElem?_updateSlot]
    by_cases hj : id = j
    · subst hj
      simp [hid]
    · simp [hj, Ne.symm hj]

/-- If every pipe can be closed, all sessions end. -/
lemma releases_closeAll {r : Registry} (hkeys : (r.registered.map (·.1)).Nodup) (h : r.Serves)
    (hclose : ∀ id s c, r.session? id = some s → r.child? id = some c → c.closeFault? = none) :
    (closeAll.run r).result = .ok () ∧
      Releases (r.registered.map (·.2)) r (closeAll.run r).state := by
  rw [closeAll, Act.run_get_bind, Act.run_modify_bind]
  have hready : ∀ id ∈ r.registered.map (·.2), ∃ c job,
      r.slots[id]? = some { child := c, job := some job } ∧ c.closeFault? = none := by
    intro id hid
    obtain ⟨⟨u, j⟩, he, rfl⟩ := List.mem_map.1 hid
    obtain ⟨s, hs, -⟩ := h u j ((mem_registered_iff hkeys).1 he)
    obtain ⟨c, hc⟩ := exists_child_of_session hs
    obtain ⟨job, -, hslot⟩ := exists_slot_of_session hs hc
    exact ⟨c, job, hslot, hclose j s c hs hc⟩
  obtain ⟨hresult, hregistered, hslots⟩ :=
    @run_each_terminate_of_none _ (nodup_slots hkeys h) { r with registered := [] } hready
  refine ⟨hresult, ?_, fun v => ?_, hslots⟩
  · rw [hregistered]
    exact List.nil_sublist _
  · rw [find?, hregistered]
    cases hv : r.find? v with
    | none => rfl
    | some id => simp [Option.filter, mem_registered_of_find? hv]

lemma Sound.releases_closeAll {r : Registry} (h : r.Sound) :
    Releases (r.registered.map (·.2)) r (closeAll.run r).state :=
  (Registry.releases_closeAll h.keys h.serves fun _ _ _ hs hc => h.closeFault?_eq_none hs hc).2

/-! ### Starting -/

lemma Sound.of_views {r r' : Registry} (h : r.Sound) (hregistered : r'.registered = r.registered)
    (hsession : ∀ j, r'.session? j = r.session? j) (hslots : ∀ sl ∈ r'.slots, sl.IsSound) :
    r'.Sound := by
  have hfind : ∀ v, r'.find? v = r.find? v := fun v => by rw [find?, hregistered, find?]
  refine ⟨hregistered ▸ h.keys, fun u id hu => ?_, fun id s hs hopen => ?_, hslots⟩
  · rw [hfind] at hu
    rw [hsession]
    exact h.serves u id hu
  · rw [hsession] at hs
    rw [hfind]
    exact h.owned id s hs hopen

lemma Sound.extend {r : Registry} (h : r.Sound) : r.extend.Sound := by
  refine h.of_views rfl (session?_extend r) fun sl hsl => ?_
  rcases List.mem_append.1 hsl with hsl | hsl
  · exact h.slots sl hsl
  · rw [List.mem_singleton.1 hsl]
    intro job hjob
    cases hjob

lemma isKept_plan (p : SpawnPlan) : p.child.IsKept ∧ p.child.closeFault? = none := by
  refine ⟨⟨rfl, rfl, rfl⟩, ?_⟩
  rw [Child.closeFault?, SpawnPlan.child]
  cases p.closeError with
  | none => exact ite_self _
  | some e => exact ite_self _

lemma Sound.seats {r r' : Registry} {u : String} (h : r.Sound) (hfree : r.find? u = none)
    (hattached : r.plan.child.stdin.attached = true) (hr : Seats u r r') : r'.Sound where
  keys := by
    rw [hr.registered, List.map_append, List.map_singleton]
    refine List.Nodup.append ((List.filter_sublist.map _).nodup h.keys) (List.nodup_singleton _) ?_
    rw [List.disjoint_singleton]
    intro hu
    obtain ⟨e, he, hkey⟩ := List.mem_map.1 hu
    simpa [hkey] using (List.mem_filter.1 he).2
  serves := h.serves.seats hr
  owned id s hs hopen := by
    rw [hr.session_eq] at hs
    rw [hr.find]
    split at hs
    · rename_i hid
      cases hs
      rw [if_pos rfl, hid]
    · -- another open session of the document would have been found
      have hfind := h.owned id s hs hopen
      rw [if_neg]
      · exact hfind
      · rintro rfl
        rw [hfree] at hfind
        cases hfind
  slots sl hsl := by
    obtain ⟨j, hj⟩ := List.mem_iff_getElem?.1 hsl
    by_cases hid : j = r.slots.length
    · obtain ⟨job, hjob, hslot⟩ := exists_slot_of_session hr.session hr.child
      rw [hid, hslot, Option.some.injEq] at hj
      subst hj
      intro job' hjob'
      cases hjob'
      obtain ⟨hkept, hclose⟩ := isKept_plan r.plan
      refine ⟨hattached, hclose, fun _ => ⟨hkept, hr.idle job ?_⟩, fun hclosed => ?_⟩
      · rw [job?, hslot]
        rfl
      · rw [hjob] at hclosed
        cases hclosed
    · rw [hr.others j hid] at hj
      exact h.slots sl (List.mem_of_getElem? hj)

/-! ### What goes on between calls -/

end Registry

/-- A slot after its reaper had its turn. -/
def Slot.reaped (sl : Slot) : Slot :=
  if sl.job.any (·.reaping) then
    { child := if sl.child.code.isNone then sl.child.kill else sl.child
      job := sl.job.map fun j => { j with reaping := false } }
  else sl

lemma Slot.IsSound.reaped {sl : Slot} (h : sl.IsSound) : sl.reaped.IsSound := by
  rw [Slot.reaped]
  split
  · rename_i hreaping
    intro job hjob
    obtain ⟨job₀, hjob₀, rfl⟩ := Option.map_eq_some_iff.1 hjob
    obtain ⟨hattached, hclosing, hopen, hclosed⟩ := h job₀ hjob₀
    have hstdin : sl.child.kill.stdin = sl.child.stdin := by
      rw [Child.kill]
      split <;> rfl
    -- no reaper waits for the process of an open session
    have hclosed₀ : job₀.session.closed = true := by
      by_contra hne
      rw [hjob₀, Option.any_some, (hopen (Bool.eq_false_iff.2 hne)).2] at hreaping
      cases hreaping
    refine ⟨?_, ?_, fun hopen' => ?_, fun _ => ?_⟩
    · split
      · rwa [hstdin]
      · exact hattached
    · split
      · rwa [Child.closeFault?, hstdin]
      · exact hclosing
    · rw [hclosed₀] at hopen'
      cases hopen'
    · dsimp only
      split
      · exact (hclosed hclosed₀).kill
      · rename_i hcode
        exact (hclosed hclosed₀).of_ended (Bool.eq_false_iff.2 hcode)
  · exact h

namespace Registry

lemma state_reap (id : Nat) (r : Registry) :
    ((reap id).run r).state = r.updateSlot id Slot.reaped := by
  have hself : (∀ sl, r.slots[id]? = some sl → sl.reaped = sl) →
      r.updateSlot id Slot.reaped = r := by
    intro h
    have hslots : (r.updateSlot id Slot.reaped).slots = r.slots := by
      apply List.ext_getElem?
      intro j
      rw [getElem?_updateSlot]
      split
      · rename_i hj
        subst hj
        cases hslot : r.slots[id]? with
        | none => rfl
        | some sl => exact congrArg some (h sl hslot)
      · rfl
    cases r
    simp only [updateSlot] at hslots ⊢
    rw [hslots]
  rw [reap, Act.run_get_bind, job?, child?]
  rcases hslot : r.slots[id]? with _ | ⟨c, _ | ⟨s, file, reader, listening, _ | _⟩⟩
  · exact (hself fun sl hsl => by cases hslot.symm.trans hsl).symm
  · exact (hself fun sl hsl => by cases hslot.symm.trans hsl; rfl).symm
  · exact (hself fun sl hsl => by cases hslot.symm.trans hsl; rfl).symm
  · simp only [Option.bind_some, Option.map_some, Act.run_modify_bind]
    split
    · rename_i hcode
      rw [Act.run_log_bind, Act.run_modify_bind]
      have hstate :
          ((r.updateJob id fun j => { j with reaping := false }).updateChild id Child.kill)
            = r.updateSlot id Slot.reaped := by
        rw [updateJob, updateChild, updateSlot_updateSlot]
        refine updateSlot_congr hslot ?_
        simp [Slot.reaped, hcode]
      split <;> exact hstate
    · rename_i hcode
      refine updateSlot_congr hslot ?_
      simp [Slot.reaped, hcode]

lemma Sound.reap {r : Registry} (h : r.Sound) (id : Nat) :
    ((Registry.reap id).run r).state.Sound := by
  have halike := (quiet_reap id r).alike
  refine h.of_views ?_ halike.session fun sl hsl => ?_
  · rw [state_reap]
    rfl
  · rw [state_reap] at hsl
    obtain ⟨j, hj⟩ := List.mem_iff_getElem?.1 hsl
    rw [getElem?_updateSlot] at hj
    split at hj
    · obtain ⟨sl₀, hsl₀, rfl⟩ := Option.map_eq_some_iff.1 hj
      exact (h.slots sl₀ (List.mem_of_getElem? hsl₀)).reaped
    · exact h.slots sl (List.mem_of_getElem? hj)

lemma Sound.mapChildren {r : Registry} (h : r.Sound) {change : Nat → Child → Child}
    (hchange : ∀ id, ∀ c : Child, c.Becomes (change id c)) : (r.mapChildren change).Sound := by
  refine h.of_views rfl (fun j => (mapChildren_views change r j).1) fun sl hsl job hjob => ?_
  obtain ⟨j, hj⟩ := List.mem_iff_getElem?.1 hsl
  rw [Registry.mapChildren, List.getElem?_mapIdx] at hj
  obtain ⟨sl₀, hsl₀, rfl⟩ := Option.map_eq_some_iff.1 hj
  obtain ⟨hattached, hclosing, hopen, hclosed⟩ := h.slots sl₀ (List.mem_of_getElem? hsl₀) job hjob
  have hc := hchange j sl₀.child
  refine ⟨hc.attached.trans hattached, hc.closing hclosing, fun hjob => ?_, fun hjob => ?_⟩
  · exact ⟨(hopen hjob).1.becomes hc, (hopen hjob).2⟩
  · exact (hclosed hjob).becomes hc

/-! ### Whole runs -/

/-- Some slots have got sessions, each slot one. -/
structure Gains (new : List Nat) (r r' : Registry) : Prop where
  nodup : new.Nodup
  fresh : ∀ id ∈ new, r.session? id = none
  known : ∀ id, r'.session? id ≠ none ↔ r.session? id ≠ none ∨ id ∈ new

lemma Gains.trans {new new' : List Nat} {r r' r'' : Registry} (h : Gains new r r')
    (h' : Gains new' r' r'') : Gains (new ++ new') r r'' where
  nodup := by
    refine h.nodup.append h'.nodup fun id hid hid' => ?_
    exact (h.known id).2 (.inr hid) (h'.fresh id hid')
  fresh id hid := by
    rcases List.mem_append.1 hid with hid | hid
    · exact h.fresh id hid
    · by_contra hsome
      exact (h.known id).2 (.inl hsome) (h'.fresh id hid)
  known id := by
    rw [h'.known, h.known, List.mem_append, or_assoc]

lemma gains_nil {r r' : Registry} (h : ∀ id, r'.session? id = none ↔ r.session? id = none) :
    Gains [] r r' := ⟨List.nodup_nil, by simp, fun id => by simp [h]⟩

lemma Releases.gains {gone : List Nat} {r r' : Registry} (h : Releases gone r r') :
    Gains [] r r' := by
  refine gains_nil fun id => ?_
  rw [h.session]
  split <;> simp

lemma Seats.gains {r r' : Registry} {u : String} (h : Seats u r r') :
    Gains [r.slots.length] r r' := by
  refine ⟨List.nodup_singleton _, fun id hid => ?_, fun id => ?_⟩
  · rw [List.mem_singleton.1 hid]
    exact session?_length r
  · rw [h.session_eq, List.mem_singleton]
    split
    · rename_i hid
      simp [hid]
    · rename_i hid
      simp [hid]

lemma Sound.openSession {r : Registry} (h : r.Sound) (u : String) (directory : Path)
    (file : String) :
    ((Registry.openSession u directory file).run r).state.Sound ∧
      Gains ((Registry.openSession u directory file).run r).result.toOption.toList r
        ((Registry.openSession u directory file).run r).state := by
  cases starting_openSession u directory file h.serves with
  | stuck id s c f _ hs hc hf _ _ _ =>
    rw [h.closeFault?_eq_none hs hc] at hf
    cases hf
  | failed f hv hresult _ =>
    have hr := hv.releases h.serves
    rw [hresult]
    exact ⟨h.releases hr, hr.gains⟩
  | pipeless f command directory hv hstate hresult _ _ =>
    have hr := hv.releases h.serves
    rw [hresult, hstate]
    refine ⟨(h.releases hr).extend, hr.gains.trans (gains_nil fun id => ?_)⟩
    rw [session?_extend]
  | seated command directory hv hseats hattached hresult _ =>
    have hr := hv.releases h.serves
    have hfree := hv.find u
    rw [if_pos rfl] at hfree
    rw [hresult, ← hv.length]
    exact ⟨(h.releases hr).seats hfree (hv.plan ▸ hattached) hseats, hr.gains.trans hseats.gains⟩

lemma Sound.discard {r : Registry} (h : r.Sound) (id : Nat) :
    ∃ gone, Releases gone r ((Registry.discard id).run r).state := by
  cases hs : r.session? id with
  | none =>
    rw [Registry.discard, Act.run_get_bind, hs]
    exact ⟨[], releases_nil r⟩
  | some s =>
    by_cases hfind : r.find? s.uri = some id
    · obtain ⟨c, hc⟩ := exists_child_of_session hs
      obtain ⟨tr, -, hrun⟩ := run_discard_of_none hs hc hfind (h.closeFault?_eq_none hs hc)
      rw [hrun]
      exact ⟨[id], releases_release h.serves hfind⟩
    · rw [run_discard_of_ne hs hfind]
      exact ⟨[], releases_nil r⟩

lemma Sound.close {r : Registry} (h : r.Sound) (u : String) :
    ∃ gone, Releases gone r ((Registry.close u).run r).state := by
  rcases close_cases u h.serves with
    ⟨tr, r', b, -, hv, hrun⟩ | ⟨id, s, c, f, r', -, hs, hc, hf, -, -⟩
  · rw [hrun]
    exact ⟨_, hv.releases h.serves⟩
  · rw [h.closeFault?_eq_none hs hc] at hf
    cases hf

lemma Sound.turn {r : Registry} (h : r.Sound) {t : Turn} (ht : t.IsLawful) :
    (t.act.run r).state.Sound ∧ Gains (t.act.run r).result.toOption.join.toList r
    (t.act.run r).state := by
  -- a turn without a new session gives no slot, whether it has a fault or not
  have hnone : ∀ {α : Type} (result : Except Fault α),
      (result.map fun _ => (none : Option Nat)).toOption.join.toList = [] := by
    intro α result
    cases result <;> rfl
  cases t with
  | openSession u directory file =>
    have hsome : ∀ result : Except Fault Nat,
        (result.map some).toOption.join.toList = result.toOption.toList := by
      intro result
      cases result <;> rfl
    rw [Turn.act, Act.run_map, hsome]
    exact h.openSession u directory file
  | close u =>
    obtain ⟨gone, hr⟩ := h.close u
    rw [Turn.act, Act.run_map, hnone]
    exact ⟨h.releases hr, hr.gains⟩
  | discard id =>
    obtain ⟨gone, hr⟩ := h.discard id
    rw [Turn.act, Act.run_map, hnone]
    exact ⟨h.releases hr, hr.gains⟩
  | closeAll =>
    have hr := h.releases_closeAll
    rw [Turn.act, Act.run_map, hnone]
    exact ⟨h.releases hr, hr.gains⟩
  | reap id =>
    rw [Turn.act, Act.run_map, hnone]
    refine ⟨h.reap id, gains_nil fun j => ?_⟩
    rw [(quiet_reap id r).alike.session]
  | plan p => exact ⟨h.of_views rfl (fun _ => rfl) h.slots, gains_nil fun _ => Iff.rfl⟩
  | world change =>
    refine ⟨h.mapChildren ht, gains_nil fun j => ?_⟩
    exact iff_of_eq (congrArg (· = none) (mapChildren_views change r j).1)

lemma Sound.turns {r : Registry} (h : r.Sound) (turns : List Turn)
    (hturns : ∀ t ∈ turns, t.IsLawful) :
    (afterTurns turns r).Sound ∧ Gains (created turns r) r (afterTurns turns r) := by
  induction turns generalizing r with
  | nil => exact ⟨h, gains_nil fun _ => Iff.rfl⟩
  | cons t rest ih =>
    obtain ⟨hsound, hgains⟩ := h.turn (hturns t List.mem_cons_self)
    obtain ⟨hsound', hgains'⟩ := ih hsound fun t' ht' => hturns t' (List.mem_cons_of_mem _ ht')
    exact ⟨hsound', hgains.trans hgains'⟩

lemma sound_start (config : Config) : Sound { config } where
  keys := List.nodup_nil
  serves _ _ hfind := by cases hfind
  owned _ _ hs := by cases hs
  slots _ hsl := by cases hsl

/-- In a sound registry a session serves a document exactly if it is open. -/
lemma Sound.registered_iff {r : Registry} (h : r.Sound) (id : Nat) :
    (∃ u, (u, id) ∈ r.registered) ↔ ∃ s, r.session? id = some s ∧ s.closed = false := by
  constructor
  · rintro ⟨u, hu⟩
    obtain ⟨s, hs, -, hopen⟩ := h.serves u id ((mem_registered_iff h.keys).1 hu)
    exact ⟨s, hs, hopen⟩
  · rintro ⟨s, hs, hopen⟩
    exact ⟨s.uri, (mem_registered_iff h.keys).2 (h.owned id s hs hopen)⟩

lemma Sound.isKept {r : Registry} (h : r.Sound) {u : String} {id : Nat}
    (hu : (u, id) ∈ r.registered) :
    ∃ c, r.child? id = some c ∧ c.IsKept := by
  obtain ⟨s, hs, -, hopen⟩ := h.serves u id ((mem_registered_iff h.keys).1 hu)
  obtain ⟨c, hc⟩ := exists_child_of_session hs
  obtain ⟨job, rfl, hslot⟩ := exists_slot_of_session hs hc
  obtain ⟨-, -, hkept, -⟩ := h.slots _ (List.mem_of_getElem? hslot) job rfl
  exact ⟨c, hc, (hkept hopen).1⟩

lemma Sound.isLetGo {r : Registry} (h : r.Sound) {id : Nat} (hs : r.session? id ≠ none)
    (hid : id ∉ r.registered.map (·.2)) :
    ∃ c job, r.slots[id]? = some { child := c, job := some job } ∧ c.IsLetGo job.reaping := by
  obtain ⟨s, hs⟩ := Option.ne_none_iff_exists'.1 hs
  obtain ⟨c, hc⟩ := exists_child_of_session hs
  obtain ⟨job, rfl, hslot⟩ := exists_slot_of_session hs hc
  obtain ⟨-, -, -, hletGo⟩ := h.slots _ (List.mem_of_getElem? hslot) job rfl
  refine ⟨c, job, hslot, hletGo ?_⟩
  by_contra hopen
  obtain ⟨u, hu⟩ := (h.registered_iff id).2 ⟨_, hs, Bool.eq_false_iff.2 hopen⟩
  exact hid (List.mem_map_of_mem hu)

/-- When its reaper had its turn, a process that was let go has ended, or it was asked to and was
killed. -/
lemma Sound.isLetGo_reap {r : Registry} (h : r.Sound) {id : Nat} (hs : r.session? id ≠ none)
    (hid : id ∉ r.registered.map (·.2)) :
    ∃ c, ((Registry.reap id).run r).state.child? id = some c ∧ c.IsLetGo false := by
  have hreap := state_reap id r
  have hs' : ((Registry.reap id).run r).state.session? id ≠ none := by
    rwa [(quiet_reap id r).alike.session]
  have hid' : id ∉ ((Registry.reap id).run r).state.registered.map (·.2) := by
    rwa [hreap]
  obtain ⟨c, job, hslot, hletGo⟩ := (h.reap id).isLetGo hs' hid'
  have hidle : job.reaping = false := by
    rw [hreap, getElem?_updateSlot, if_pos rfl] at hslot
    obtain ⟨sl, -, hsl⟩ := Option.map_eq_some_iff.1 hslot
    rw [Slot.reaped] at hsl
    split at hsl
    · obtain ⟨job₀, -, rfl⟩ := Option.map_eq_some_iff.1 (congrArg Slot.job hsl)
      rfl
    · rename_i hreaping
      rw [hsl] at hreaping
      exact Bool.eq_false_iff.2 hreaping
  exact ⟨c, child?_of_slot hslot, hidle ▸ hletGo⟩

/-- A session that cannot be started leaves its document without one, and the others as they
were. -/
lemma Sound.openSession_of_spawn {r : Registry} (h : r.Sound) {u : String} {directory : Path}
    {file : String}
    {executable : String} {e : OsError}
    (hresult : ((Registry.openSession u directory file).run r).result
      = .error (.spawn executable e)) :
    (∀ v, ((Registry.openSession u directory file).run r).state.find? v
        = if v = u then none else r.find? v) ∧
      ∀ id, r.find? u ≠ some id →
        ((Registry.openSession u directory file).run r).state.slots[id]? = r.slots[id]? := by
  cases starting_openSession u directory file h.serves with
  | stuck id s c f _ hs hc hf _ _ _ =>
    rw [h.closeFault?_eq_none hs hc] at hf
    cases hf
  | failed f hv _ _ =>
    refine ⟨hv.find, fun id hid => ?_⟩
    rw [(hv.releases h.serves).slots, if_neg]
    rwa [Option.mem_toList]
  | pipeless f _ _ _ _ herror hf _ =>
    rw [hresult, Except.error.injEq] at herror
    exact absurd herror.symm (hf executable e)
  | seated _ _ _ _ _ hok _ =>
    rw [hresult] at hok
    cases hok

/-- Documents have at most one session each, and sessions have a process each. A session serves its
document exactly as long as it is open. The process of a session that serves a document is left
alone; that of any other session is let go, and once its reaper had its turn it has ended or was
killed. A session that cannot be started leaves its document without one, and all others as they
were. -/
theorem sessions_own_their_processes (config : Config) (turns : List Turn)
    (hturns : ∀ t ∈ turns, t.IsLawful) :
    let r := afterTurns turns { config }
    let sessions := created turns { config }
    sessions.Nodup ∧ (r.registered.map (·.1)).Nodup ∧ (r.registered.map (·.2)).Nodup ∧
    (∀ u id, (u, id) ∈ r.registered → ∃ s, r.session? id = some s ∧ s.uri = u) ∧
    (∀ id, (∃ u, (u, id) ∈ r.registered) ↔
      id ∈ sessions ∧ ∃ s, r.session? id = some s ∧ s.closed = false) ∧
    (∀ u id, (u, id) ∈ r.registered → ∃ c, r.child? id = some c ∧ c.IsKept) ∧
    (∀ id ∈ sessions, id ∉ r.registered.map (·.2) →
      (∃ c job, r.slots[id]? = some { child := c, job := some job } ∧ c.IsLetGo job.reaping) ∧
      ∃ c, ((reap id).run r).state.child? id = some c ∧ c.IsLetGo false) ∧
    ∀ u directory file executable e,
      ((openSession u directory file).run r).result = .error (.spawn executable e) →
      (∀ v, ((openSession u directory file).run r).state.find? v
        = if v = u then none else r.find? v) ∧
      ∀ id, r.find? u ≠ some id →
        ((openSession u directory file).run r).state.slots[id]? = r.slots[id]? := by
  intro r sessions
  obtain ⟨hsound, hgains⟩ := (sound_start config).turns turns hturns
  have hknown : ∀ id, id ∈ sessions ↔ r.session? id ≠ none := by
    intro id
    rw [hgains.known]
    have hempty : ({ config } : Registry).session? id = none := rfl
    simp [hempty, sessions]
  refine ⟨hgains.nodup, hsound.keys, hsound.nodup_slots, fun u id hu => ?_, fun id => ?_,
    fun u id hu => hsound.isKept hu, fun id hid hgone => ?_,
    fun u directory file executable e hresult => hsound.openSession_of_spawn hresult⟩
  · obtain ⟨s, hs, huri, -⟩ := hsound.serves u id ((mem_registered_iff hsound.keys).1 hu)
    exact ⟨s, hs, huri⟩
  · rw [hsound.registered_iff, hknown]
    constructor
    · rintro ⟨s, hs, hopen⟩
      exact ⟨fun hnone => Option.some_ne_none s (hs.symm.trans hnone), s, hs, hopen⟩
    · exact And.right
  · have hs := (hknown id).1 hid
    exact ⟨hsound.isLetGo hs hgone, hsound.isLetGo_reap hs hgone⟩

/-- A document gets another session in place of a stubborn one, whose reaper has its turn; the old
session is discarded once more; and the checker of another document ends before that is closed. -/
def replacedSession : List Turn :=
  [.plan { temper := .stubborn },
   .openSession "a" {} "A.fst",
   .openSession "b" {} "B.fst",
   .openSession "a" {} "A.fst",
   .reap 0,
   .discard 0,
   .world fun id c => if id = 1 then c.exit 3 else c,
   .close "b"]

theorem sessions_own_their_processes_of_replacedSession :
    (afterTurns replacedSession { config := {} }).registered = [("a", 2)] ∧
      created replacedSession { config := {} } = [0, 1, 2] ∧
      (∃ c, (afterTurns replacedSession { config := {} }).child? 2 = some c ∧ c.IsKept) ∧
      ∀ id ∈ [0, 1], ∃ c job, (afterTurns replacedSession { config := {} }).slots[id]?
        = some { child := c, job := some job } ∧ c.IsLetGo job.reaping := by
  have hlawful : ∀ t ∈ replacedSession, t.IsLawful := by
    intro t ht
    simp only [replacedSession, List.mem_cons, List.not_mem_nil, or_false] at ht
    rcases ht with rfl | rfl | rfl | rfl | rfl | rfl | rfl | rfl
    case inr.inr.inr.inr.inr.inr.inl =>
      intro id c
      dsimp only
      by_cases hid : id = 1
      · rw [if_pos hid]
        exact ⟨rfl, rfl, rfl, rfl, fun hcode => Option.or_of_isSome hcode, fun h => h⟩
      · rw [if_neg hid]
        exact ⟨rfl, rfl, rfl, rfl, fun _ => rfl, fun h => h⟩
    all_goals trivial
  have hregistered : (afterTurns replacedSession { config := {} }).registered = [("a", 2)] := by
    decide +kernel
  have hcreated : created replacedSession { config := {} } = [0, 1, 2] := by decide +kernel
  obtain ⟨-, -, -, -, -, hkept, hletGo, -⟩ :=
    sessions_own_their_processes {} replacedSession hlawful
  rw [hcreated, hregistered] at hletGo
  refine ⟨hregistered, hcreated, hkept "a" 2 (by rw [hregistered]; simp), fun id hid => ?_⟩
  refine (hletGo id ?_ ?_).1
  · revert id
    decide
  · revert id
    decide

end Registry

end ProverLink
