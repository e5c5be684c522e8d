import ProverLink.Proofs.Runs

/-!
# Pending text plays no part

The text that waits in a session for the end of its line matters to the output that follows, and to
nothing else. If the pending text of some slots is erased, every operation on documents does the
same as before.
-/

namespace ProverLink

/-- A session without its pending text, if that is to be erased. -/
def Session.eraseIf (b : Bool) (s : Session) : Session :=
  { s with lines := if b then {} else s.lines }

namespace Registry

/-- A registry without the pending text of some slots. -/
def eraseLines (erased : Nat → Bool) (r : Registry) : Registry :=
  { r with slots := r.slots.mapIdx fun id sl =>
      { sl with job := sl.job.map fun j => { j with session := j.session.eraseIf (erased id) } } }

variable (erased : Nat → Bool)

/-! ### Parts of a registry without pending text -/

lemma getElem?_eraseLines (r : Registry) (j : Nat) :
    (r.eraseLines erased).slots[j]? = r.slots[j]?.map fun sl =>
      { sl with job := sl.job.map fun k => { k with session := k.session.eraseIf (erased j) } } :=
  List.getElem?_mapIdx

@[simp] lemma length_eraseLines (r : Registry) :
    (r.eraseLines erased).slots.length = r.slots.length := List.length_mapIdx

lemma job?_eraseLines (r : Registry) (j : Nat) :
    (r.eraseLines erased).job? j
      = (r.job? j).map fun k => { k with session := k.session.eraseIf (erased j) } := by
  rw [job?, getElem?_eraseLines, job?]
  cases r.slots[j]? <;> rfl

lemma session?_eraseLines (r : Registry) (j : Nat) :
    (r.eraseLines erased).session? j = (r.session? j).map (Session.eraseIf (erased j)) := by
  rw [session?, job?_eraseLines, session?, Option.map_map, Option.map_map]
  rfl

@[simp] lemma child?_eraseLines (r : Registry) (j : Nat) :
    (r.eraseLines erased).child? j = r.child? j := by
  rw [child?, getElem?_eraseLines, child?]
  cases r.slots[j]? <;> rfl

@[simp] lemma find?_eraseLines (r : Registry) (u : String) :
    (r.eraseLines erased).find? u = r.find? u := rfl

/-- What is erased first makes no difference if all is erased in the end. -/
lemma eraseLines_eraseLines (r : Registry) :
    (r.eraseLines erased).eraseLines (fun _ => true) = r.eraseLines fun _ => true := by
  rw [eraseLines, eraseLines, eraseLines, List.mapIdx_mapIdx]
  congr
  funext j sl
  rcases sl with ⟨c, _ | k⟩ <;> rfl

/-! ### Changes of a registry without pending text -/

lemma updateSlot_eraseLines (r : Registry) (id : Nat) {f g : Slot → Slot}
    (h : ∀ sl, g { sl with job := sl.job.map fun k =>
          { k with session := k.session.eraseIf (erased id) } }
        = { f sl with job := (f sl).job.map fun k =>
              { k with session := k.session.eraseIf (erased id) } }) :
    (r.eraseLines erased).updateSlot id g = (r.updateSlot id f).eraseLines erased := by
  have hslots : ((r.eraseLines erased).updateSlot id g).slots
      = ((r.updateSlot id f).eraseLines erased).slots := by
    apply List.ext_getElem?
    intro j
    rw [getElem?_updateSlot, getElem?_eraseLines, getElem?_eraseLines, getElem?_updateSlot]
    split
    · rename_i hj
      subst hj
      rw [Option.map_map, Option.map_map]
      congr 1
      funext sl
      exact h sl
    · rfl
  show ({ r with slots := _ } : Registry) = { r with slots := _ }
  exact congrArg (fun slots => ({ r with slots := slots } : Registry)) hslots

lemma updateChild_eraseLines (r : Registry) (id : Nat) (f : Child → Child) :
    (r.eraseLines erased).updateChild id f = (r.updateChild id f).eraseLines erased :=
  updateSlot_eraseLines erased r id fun _ => rfl

lemma updateJob_eraseLines (r : Registry) (id : Nat) {f g : Job → Job}
    (h : ∀ k, g { k with session := k.session.eraseIf (erased id) }
      = { f k with session := (f k).session.eraseIf (erased id) }) :
    (r.eraseLines erased).updateJob id g = (r.updateJob id f).eraseLines erased := by
  refine updateSlot_eraseLines erased r id fun sl => ?_
  cases sl.job with
  | none => rfl
  | some k => simp [h]

lemma updateSession_eraseLines (r : Registry) (id : Nat) {f g : Session → Session}
    (h : ∀ s, g (s.eraseIf (erased id)) = (f s).eraseIf (erased id)) :
    (r.eraseLines erased).updateSession id g = (r.updateSession id f).eraseLines erased :=
  updateJob_eraseLines erased r id fun k => by simp [h]

/-- A session that is replaced takes its pending text along. -/
lemma updateSession_const_congr {erased erased' : Nat → Bool} {id : Nat}
    (h : ∀ j, j ≠ id → erased' j = erased j) (r : Registry) (s : Session) :
    ((r.eraseLines erased).updateSession id fun _ => s)
      = (r.eraseLines erased').updateSession id fun _ => s := by
  have hslots : ((r.eraseLines erased).updateSession id fun _ => s).slots
      = ((r.eraseLines erased').updateSession id fun _ => s).slots := by
    apply List.ext_getElem?
    intro j
    rw [updateSession, updateJob, getElem?_updateSlot, updateSession, updateJob,
      getElem?_updateSlot, getElem?_eraseLines, getElem?_eraseLines]
    split
    · simp [Option.map_map, Function.comp_def]
    · rename_i hj
      rw [h j (Ne.symm hj)]
  exact congrArg (fun slots => ({ r with slots := slots } : Registry)) hslots

lemma updateSession_const_eraseLines (r : Registry) (id : Nat) (s : Session) :
    ((r.eraseLines erased).updateSession id fun _ => s.eraseIf (erased id))
      = (r.updateSession id fun _ => s).eraseLines erased :=
  updateSession_eraseLines erased r id fun _ => rfl

/-! ### Closing -/

lemma commutes_closeStdin (id : Nat) (uri : String) (c : Child) :
    Act.Commutes (eraseLines erased) (closeStdin id uri c) := by
  rw [closeStdin]
  split
  · refine .bind (.modify fun r => updateChild_eraseLines erased r id _) fun _ => ?_
    rcases c.stdin.closeError with _ | (e | e | e)
    · exact .pure _
    · exact .log _
    · exact .fail _
    · exact .fail _
  · exact .pure _

lemma commutes_requestEnd (id : Nat) (uri : String) (c : Child) :
    Act.Commutes (eraseLines erased) (requestEnd id uri c) := by
  rw [requestEnd]
  cases c.code with
  | some code => exact .pure _
  | none =>
    refine .bind (.log _) fun _ => .bind (.modify fun r => updateChild_eraseLines erased r id _)
      fun _ => .modify fun r => updateJob_eraseLines erased r id fun _ => rfl

lemma commutes_terminate (id : Nat) : Act.Commutes (eraseLines erased) (terminate id) := by
  refine .get_bind (fun r => ?_) fun r => ?_
  · rw [session?_eraseLines, child?_eraseLines]
    cases r.session? id <;> cases r.child? id <;> rfl
  · cases r.session? id with
    | none => exact .pure _
    | some s =>
      cases r.child? id with
      | none => exact .pure _
      | some c =>
        refine .bind (.modify fun r => updateSession_eraseLines erased r id fun _ => rfl)
          fun _ => ?_
        exact .bind (commutes_closeStdin erased id s.uri c) fun _ =>
          commutes_requestEnd erased id s.uri c

lemma commutes_close (u : String) : Act.Commutes (eraseLines erased) (close u) := by
  refine .get_bind (fun _ => rfl) fun r => ?_
  cases r.find? u with
  | none => exact .pure _
  | some id =>
    exact .bind (.modify fun _ => rfl) fun _ =>
      .bind (commutes_terminate erased id) fun _ => .pure _

lemma commutes_discard (id : Nat) : Act.Commutes (eraseLines erased) (discard id) := by
  refine .get_bind (fun r => ?_) fun r => ?_
  · rw [session?_eraseLines]
    cases r.session? id <;> rfl
  · cases r.session? id with
    | none => exact .pure _
    | some s =>
      dsimp only
      split
      · exact .bind (.modify fun _ => rfl) fun _ => .bind (commutes_terminate erased id) fun _ =>
          .pure _
      · exact .pure _

lemma commutes_closeAll : Act.Commutes (eraseLines erased) closeAll :=
  .get_bind (fun _ => rfl) fun _ => .bind (.modify fun _ => rfl) fun _ =>
    .each (commutes_terminate erased) _

/-! ### Opening and writing -/

lemma commutes_spawn (command : List String) (directory : Path) :
    Act.Commutes (eraseLines erased) (spawn command directory) := by
  refine .get_bind (fun r => ?_) fun r => ?_
  · simp only [length_eraseLines]
    rfl
  · rcases r.plan.error with _ | (e | e | e)
    · refine .bind (.emit _) fun _ => .bind (.modify fun r => ?_) fun _ => .pure _
      rw [eraseLines, eraseLines, List.mapIdx_append]
      rfl
    · exact .fail _
    · exact .fail _
    · exact .fail _

lemma commutes_openSession (u : String) (directory : Path) (file : String) :
    Act.Commutes (eraseLines erased) (openSession u directory file) := by
  refine .bind (commutes_close erased u) fun _ => .get_bind (fun _ => rfl) fun r => ?_
  refine .bind (.log _) fun _ => .bind (commutes_spawn erased _ directory) fun id => ?_
  dsimp only
  split
  · refine .bind (.modify fun r => ?_) fun _ => .bind (.modify fun _ => rfl) fun _ => .pure _
    refine updateSlot_eraseLines erased r id fun sl => ?_
    cases erased id <;> rfl
  · exact .fail _

lemma commutes_writeLine (id : Nat) (line : List Char) :
    Act.Commutes (eraseLines erased) (writeLine id line) := by
  refine .get_bind (fun r => ?_) fun r => ?_
  · rw [session?_eraseLines, child?_eraseLines]
    cases r.session? id <;> cases r.child? id <;> rfl
  · cases r.session? id with
    | none => exact .pure _
    | some s =>
      cases r.child? id with
      | none => exact .pure _
      | some c =>
        dsimp only
        split
        · refine .bind (.modify fun r => updateChild_eraseLines erased r id _) fun _ => ?_
          rcases c.writeError? with _ | (e | e | e)
          · exact .emit _
          · exact .fail _
          · exact .fail _
          · exact .fail _
        · exact .fail _

lemma commutes_send (u : String) (q : Query) : Act.Commutes (eraseLines erased) (send u q) := by
  refine .get_bind (fun r => ?_) fun r => ?_
  · rw [find?_eraseLines]
    cases r.find? u with
    | none => rfl
    | some id =>
      simp only [session?_eraseLines, Option.map_map]
      rfl
  · cases r.find? u with
    | none => exact .bind (.log _) fun _ => .pure _
    | some id =>
      refine .bind (.modify fun r => updateSession_eraseLines erased r id fun _ => rfl) fun _ => ?_
      refine .bind (.ofExcept _) fun line => .bind (commutes_writeLine erased id line) fun _ => ?_
      exact .bind (.log _) fun _ => .pure _

/-- An act on a session that does not look at its pending text. -/
lemma commutes_onSession {α : Type} {act : Act Session α} (id : Nat) (absent : α)
    (h : Act.Commutes (Session.eraseIf (erased id)) act) :
    Act.Commutes (eraseLines erased) (onSession id absent act) := by
  intro r
  cases hs : r.session? id with
  | none =>
    have hs' : (r.eraseLines erased).session? id = none := by rw [session?_eraseLines, hs]; rfl
    simp only [onSession, Act.run, hs, hs']
  | some s =>
    have hs' : (r.eraseLines erased).session? id = some (s.eraseIf (erased id)) := by
      rw [session?_eraseLines, hs]
      rfl
    rw [run_onSession hs', run_onSession hs, h s]
    dsimp only
    rw [updateSession_const_eraseLines]

end Registry

namespace Bridge

open Registry

variable (erased : Nat → Bool)

/-! ### Documents -/

lemma commutes_transportError (u message : String) :
    Act.Commutes (eraseLines erased) (Session.transportError u message) :=
  .bind (.log _) fun _ => .bind (.tell _) fun _ => .bind (.tell _) fun _ => .pure _

lemma commutes_sendOrReport (u : String) (q : Query) :
    Act.Commutes (eraseLines erased) (sendOrReport u q) := by
  refine .catching (commutes_send erased u q) fun f rescue hrescue => ?_
  cases f with
  | transport e =>
    cases hrescue
    refine .get_bind (fun _ => rfl) fun r => ?_
    have hreport := Act.Commutes.bind (commutes_transportError erased u (Fault.transportMessage e))
      fun _ => Act.Commutes.pure (none : Option Nat)
    cases r.find? u with
    | none => exact hreport
    | some id => exact .bind (commutes_discard erased id) fun _ => hreport
  | _ => cases hrescue

lemma commutes_clear (b : Bool) : Act.Commutes (Session.eraseIf b) Session.clear :=
  .get_bind (fun _ => rfl) fun _ => .bind (.modify fun _ => rfl) fun _ => .bind (.tell _) fun _ =>
    .bind (.log _) fun _ => .tell _

lemma commutes_changeDocument (u text : String) :
    Act.Commutes (eraseLines erased) (changeDocument u text) := by
  refine .get_bind (fun _ => rfl) fun r => ?_
  cases r.find? u with
  | none => exact .bind (.log _) fun _ => .pure _
  | some id =>
    refine .bind (commutes_onSession erased id () (commutes_clear _)) fun _ => ?_
    refine .bind (commutes_sendOrReport erased u _) fun n => ?_
    cases n with
    | none => exact .pure _
    | some n =>
      exact .bind (.modify fun r => updateSession_eraseLines erased r id fun _ => rfl)
        fun _ => .pure _

lemma commutes_startSession (u : String) (path : Path) :
    Act.Commutes (eraseLines erased) (startSession u path) := by
  refine .catching (.bind (commutes_openSession erased u _ _) fun _ => .pure _)
    fun f rescue hrescue => ?_
  cases f with
  | spawn executable e =>
    cases hrescue
    exact .bind (commutes_transportError erased u _) fun _ => .pure _
  | _ => cases hrescue

lemma commutes_openDocument (u text : String) (path : Path) :
    Act.Commutes (eraseLines erased) (openDocument u text path) := by
  refine .bind (.log _) fun _ => .bind (commutes_startSession erased u path) fun started => ?_
  cases started with
  | none => exact .pure _
  | some id =>
    refine .bind (commutes_sendOrReport erased u _) fun sent => ?_
    cases sent with
    | none => exact .pure _
    | some n => exact .bind (commutes_changeDocument erased u text) fun _ => .pure _

lemma commutes_reap (id : Nat) : Act.Commutes (eraseLines erased) (reap id) := by
  refine .get_bind (fun r => ?_) fun r => ?_
  · rw [job?_eraseLines, child?_eraseLines]
    rcases r.job? id with _ | ⟨s, file, reader, listening, reaping⟩
    · rfl
    · cases reaping <;> cases r.child? id <;> rfl
  · split
    · refine .bind (.modify fun r => updateJob_eraseLines erased r id fun _ => rfl) fun _ => ?_
      split
      · refine .bind (.log _) fun _ => .bind (.modify fun r => updateChild_eraseLines erased r id _)
          fun _ => ?_
        split
        · exact .log _
        · exact .pure _
      · exact .pure _
    · exact .pure _

/-- Whether a step delivers something that a process said. -/
def Step.isDelivery : Step → Bool
  | .output .. => true
  | .exit .. => true
  | _ => false

/-- Steps that deliver nothing do not look at pending text. -/
lemma commutes_step [Limits] {st : Step} (h : st.isDelivery = false) :
    Act.Commutes (eraseLines erased) st.act := by
  cases st with
  | openDocument u text path =>
    cases path with
    | none =>
      refine .map (.bind (.ofExcept _) fun path => ?_) _
      exact commutes_openDocument erased u text path
    | some path => exact .map (commutes_openDocument erased u text path) _
  | changeDocument u text => exact .map (commutes_changeDocument erased u text) _
  | closeDocument u => exact .map (.bind (.log _) fun _ => commutes_close erased u) _
  | shutdown => exact .map (commutes_closeAll erased) _
  | output id text => cases h
  | exit id code => cases h
  | reap id => exact .map (commutes_reap erased id) _
  | plan p =>
    refine .map (.modify fun r => ?_) _
    rfl
  | world change =>
    refine .map (.modify fun r => ?_) _
    simp only [mapChildren, eraseLines, List.mapIdx_mapIdx]
    rfl

end Bridge

end ProverLink
