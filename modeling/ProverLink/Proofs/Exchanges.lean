import ProverLink.Proofs.Endings
import ProverLink.Proofs.Queries

/-!
# Exchanges with a checker

All that can happen when a query is sent, or a document is changed or opened. A query is taken; or
the document loses its session and that is reported; or closing the session has a fault, and nothing
is reported; or writing has a fault that nobody handles, and the session stays.
-/

namespace ProverLink

/-- What the editor is told when the checker of a document failed. -/
def report (u message : String) : List Effect :=
  [.event (.publish u [.ofFailure message]), .event (.logError (u ++ ": " ++ message))]

/-- What the editor is told when the diagnostics of a document are cleared. -/
def clearing (u : String) : List Effect := [.event (.publish u []), .event (.statusClear u)]

namespace Child

/-- The fault of a write on standard input, if it is not taken. -/
def writeFault? (c : Child) (uri : String) : Option Fault :=
  if c.stdin.attached then
    match c.writeError? with
    | none => none
    | some (.other text) => some (.pipe (.other text))
    | some e => some (.transport e)
  else some (.impossible "session process has no stdin pipe" (Registry.aboutUri uri))

/-- A process after a write was tried, if there is a pipe to write on. -/
def tried (c : Child) : Child := if c.stdin.attached then c.afterWrite else c

/-- Whether there is a pipe, and a write on it is taken or fails in a way that is handled. -/
structure IsFair (c : Child) : Prop where
  attached : c.stdin.attached = true
  write : c.stdin.WritesWell

lemma attached_of_writeFault? {c : Child} {u : String} (h : c.writeFault? u = none) :
    c.stdin.attached = true := by
  rw [writeFault?] at h
  split at h
  · assumption
  · cases h

lemma IsFair.transport {c : Child} (h : c.IsFair) {u : String} {f : Fault}
    (hf : c.writeFault? u = some f) : ∃ e, f = .transport e := by
  have hother : ∀ text, c.writeError? ≠ some (.other text) := by
    intro text he
    have hw := h.write text
    rw [List.mem_cons, not_or] at hw
    rw [writeError?, Option.or_eq_some_iff] at he
    rcases he with he | ⟨-, he⟩
    · cases hscript : c.stdin.script with
      | nil =>
        rw [hscript] at he
        exact hw.1 he.symm
      | cons head rest =>
        rw [hscript] at he hw
        exact hw.2 (List.mem_cons.2 (.inl he.symm))
    · split at he <;> simp at he
  rw [writeFault?, if_pos h.attached] at hf
  split at hf
  · cases hf
  · rename_i text he
    exact absurd he (hother text)
  · exact ⟨_, (Option.some.inj hf).symm⟩

lemma writesWell_afterWrite {c : Child} (h : c.stdin.WritesWell) :
    c.afterWrite.stdin.WritesWell := by
  intro text hmem
  refine h text ?_
  rcases List.mem_cons.1 hmem with hw | hw
  · exact hw ▸ List.mem_cons_self
  · exact List.mem_cons_of_mem _ (List.mem_of_mem_tail hw)

@[simp] lemma closeFault?_tried (c : Child) : c.tried.closeFault? = c.closeFault? := by
  rw [tried]
  split <;> rfl

end Child

namespace Session

/-- A session with one more query. -/
def counted (s : Session) : Session := { s with lastQuery := s.lastQuery + 1 }

/-- A session without diagnostics. -/
def cleared (s : Session) : Session := { s with diagnostics := [] }

/-- A session whose last query is a check. -/
def checking (s : Session) : Session := { s with checkQuery := s.lastQuery }

end Session

namespace Registry

/-! ### Writing -/

section Writing

variable {r : Registry} {id : Nat} {s : Session} {c : Child} (hs : r.session? id = some s)
  (hc : r.child? id = some c)

include hs hc

lemma updateChild_tried (hattached : c.stdin.attached = true) :
    r.updateChild id Child.afterWrite = r.updateChild id Child.tried := by
  obtain ⟨job, -, hslot⟩ := exists_slot_of_session hs hc
  refine updateSlot_congr hslot ?_
  simp [Child.tried, hattached]

lemma run_writeLine_of_none (h : c.writeFault? s.uri = none) (line : List Char) :
    (writeLine id line).run r
      = { result := .ok (), state := r.updateChild id Child.tried, trace := [.wrote id line] } := by
  rw [writeLine, Act.run_get_bind]
  simp only [hs, hc]
  rw [Child.writeFault?] at h
  cases hattached : c.stdin.attached with
  | false => simp [hattached] at h
  | true =>
    rw [if_pos rfl, Act.run_modify_bind, updateChild_tried hs hc hattached]
    rw [if_pos hattached] at h
    rcases he : c.writeError? with _ | (e | e | e)
    · rfl
    · simp [he] at h
    · simp [he] at h
    · simp [he] at h

lemma run_writeLine_of_fault {f : Fault} (h : c.writeFault? s.uri = some f) (line : List Char) :
    (writeLine id line).run r = { result := .error f, state := r.updateChild id Child.tried } := by
  rw [writeLine, Act.run_get_bind]
  simp only [hs, hc]
  rw [Child.writeFault?] at h
  cases hattached : c.stdin.attached with
  | false =>
    obtain ⟨job, -, hslot⟩ := exists_slot_of_session hs hc
    have htried : r.updateChild id Child.tried = r := by
      refine (updateSlot_congr hslot ?_).trans (updateSlot_id r id)
      simp [Child.tried, hattached]
    rw [hattached] at h
    cases h
    rw [if_neg (by decide), htried]
    rfl
  | true =>
    rw [if_pos rfl, Act.run_modify_bind, updateChild_tried hs hc hattached]
    rw [if_pos hattached] at h
    rcases he : c.writeError? with _ | (e | e | e)
    · simp [he] at h
    all_goals
      rw [he] at h
      cases h
      rfl

end Writing

section Sending

variable {r : Registry} {u : String} {id : Nat} {s : Session} {c : Child} {q : Query}
  {line : List Char}
  (hfind : r.find? u = some id) (hs : r.session? id = some s) (hc : r.child? id = some c)
  (hu : s.uri = u) (hline : (q.stamp (s.lastQuery + 1)).toLine = .ok line)

include hfind hs hc

lemma revises_counted_tried :
    Revises u id (some id) s.counted c.tried r
      ((r.updateSession id fun s' => { s' with lastQuery := s.lastQuery + 1 }).updateChild id
        Child.tried) := by
  have hcounted := revises_updateSession hfind hs hc fun s' =>
    { s' with lastQuery := s.lastQuery + 1 }
  exact hcounted.trans (revises_updateChild hcounted.find_self hcounted.session hcounted.child
    Child.tried)

include hu hline

lemma run_send_of_none (h : c.writeFault? u = none) :
    ∃ r', Revises u id (some id) s.counted c.tried r r' ∧
      (send u q).run r
        = { result := .ok (some (s.lastQuery + 1)), state := r',
            trace := [.wrote id line, .notice (.sent u q.name (s.lastQuery + 1))] } := by
  have hcounted := revises_updateSession hfind hs hc fun s' =>
    { s' with lastQuery := s.lastQuery + 1 }
  have hwrite := run_writeLine_of_none hcounted.session hcounted.child (hu ▸ h) line
  refine ⟨_, revises_counted_tried hfind hs hc, ?_⟩
  rw [send, Act.run_get_bind]
  simp only [hfind, hs, Option.map_some, Option.getD_some, Act.run_modify_bind, hline]
  rw [Act.run_bind_ok _ _ _ rfl, Act.run_ofExcept_ok,
    Act.run_bind_ok (a := ()) _ _ _ (congrArg Outcome.result hwrite), hwrite]
  rfl

lemma run_send_of_fault {f : Fault} (h : c.writeFault? u = some f) :
    ∃ r', Revises u id (some id) s.counted c.tried r r' ∧
      (send u q).run r = { result := .error f, state := r' } := by
  have hcounted := revises_updateSession hfind hs hc fun s' =>
    { s' with lastQuery := s.lastQuery + 1 }
  have hwrite := run_writeLine_of_fault hcounted.session hcounted.child (hu ▸ h) line
  refine ⟨_, revises_counted_tried hfind hs hc, ?_⟩
  rw [send, Act.run_get_bind]
  simp only [hfind, hs, Option.map_some, Option.getD_some, Act.run_modify_bind, hline]
  rw [Act.run_bind_ok _ _ _ rfl, Act.run_ofExcept_ok,
    Act.run_bind_error (f := f) _ _ _ (congrArg Outcome.result hwrite), hwrite]
  rfl

end Sending

/-! ### All that can happen to a query -/

/-- A query is not taken. The session `s` counts it already. -/
inductive Refusing (u : String) (id : Nat) (front : List Effect) (s : Session) (c : Child)
    (r : Registry) (o : Outcome Registry (Option Nat)) : Prop where
  /-- The document loses its session, and that is reported. -/
  | lost (e : PipeError) : c.writeFault? u = some (.transport e) → c.closeFault? = none →
    Revises u id none s.ended c.tried.released r o.state → o.result = .ok none →
    visible o.trace = front ++ report u (Fault.transportMessage e) → Refusing u id front s c r o
  /-- The document loses its session, but there is a fault on the way. -/
  | cut (e : PipeError) (f : Fault) : c.writeFault? u = some (.transport e) →
    c.closeFault? = some f → Revises u id none s.ended c.tried.shut r o.state →
    o.result = .error f → visible o.trace = front → Refusing u id front s c r o
  /-- The fault is one that nobody handles. -/
  | wild (f : Fault) : c.writeFault? u = some f → (∀ e, f ≠ .transport e) →
    Revises u id (some id) s c.tried r o.state → o.result = .error f → visible o.trace = front →
    Refusing u id front s c r o

/-- A query is taken, and leaves the session `s'`, or it is not. -/
inductive Sending (u : String) (id : Nat) (front : List Effect) (s s' : Session) (c : Child)
    (line : List Char) (r : Registry) (o : Outcome Registry (Option Nat)) : Prop where
  | taken : c.writeFault? u = none → Revises u id (some id) s' c.tried r o.state →
    o.result = .ok (some s.lastQuery) → visible o.trace = front ++ [.wrote id line] →
    Sending u id front s s' c line r o
  | refused : Refusing u id front s c r o → Sending u id front s s' c line r o

section Views

variable {r : Registry} {u : String} {id : Nat} {front : List Effect} {s s' : Session} {c : Child}
  {line : List Char} {o : Outcome Registry (Option Nat)}

lemma Refusing.session_eq (h : Refusing u id front s c r o) :
    ∃ t, ∀ j, o.state.session? j = if j = id then some t else r.session? j := by
  cases h with
  | lost _ _ _ hr _ _ => exact ⟨_, hr.session_eq⟩
  | cut _ _ _ _ hr _ _ => exact ⟨_, hr.session_eq⟩
  | wild _ _ _ hr _ _ => exact ⟨_, hr.session_eq⟩

lemma Sending.session_eq (h : Sending u id front s s' c line r o) :
    ∃ t, ∀ j, o.state.session? j = if j = id then some t else r.session? j := by
  cases h with
  | taken _ hr _ _ => exact ⟨_, hr.session_eq⟩
  | refused h => exact h.session_eq

end Views

end Registry

namespace Bridge

open Registry

lemma run_transportError_eq {σ : Type} (u message : String) (r : σ) :
    ∃ tr, visible tr = report u message ∧ (Session.transportError u message).run r
      = { result := .ok (Diagnostic.ofFailure message), state := r, trace := tr } := ⟨_, rfl, rfl⟩

lemma run_changeDocument_of_none {r : Registry} {u : String} (hfind : r.find? u = none)
    (text : String) :
    ∃ notice, (changeDocument u text).run r
      = { result := .ok none, state := r, trace := [.notice notice] } := by
  refine ⟨.changeIgnored u, ?_⟩
  rw [changeDocument, Act.run_get_bind]
  simp only [hfind]
  rfl

lemma run_onSession_clear {r : Registry} {id : Nat} {s : Session} (hs : r.session? id = some s) :
    (onSession id () Session.clear).run r
      = { result := .ok (), state := r.updateSession id fun _ => { s with diagnostics := [] },
          trace := [.event (.publish s.uri []), .notice (.statusClear s.uri),
            .event (.statusClear s.uri)] } := by
  rw [run_onSession hs]
  rfl

section Sending

variable {r : Registry} {u : String} {id : Nat} {s : Session} {c : Child}
  (hfind : r.find? u = some id) (hs : r.session? id = some s) (hc : r.child? id = some c)
  (hu : s.uri = u)

include hfind hs hc hu

lemma sending_sendOrReport {q : Query} {line : List Char}
    (hline : (q.stamp (s.lastQuery + 1)).toLine = .ok line) :
    Sending u id [] s.counted s.counted c line r ((sendOrReport u q).run r) := by
  cases hwrite : c.writeFault? u with
  | none =>
    obtain ⟨r', hr, hsend⟩ := run_send_of_none hfind hs hc hu hline hwrite
    have hrun : (sendOrReport u q).run r = _ :=
      Act.run_catching_ok _ _ (congrArg Outcome.result hsend)
    rw [hrun, hsend]
    exact .taken hwrite hr rfl rfl
  | some f =>
    obtain ⟨r', hr, hsend⟩ := run_send_of_fault hfind hs hc hu hline hwrite
    have hresult := congrArg Outcome.result hsend
    refine .refused ?_
    by_cases hf : ∃ e, f = .transport e
    · -- the handler looks for the session again, and it is still there
      obtain ⟨e, rfl⟩ := hf
      have hfind' := hr.find_self
      rw [sendOrReport, Act.run_catching_handled _ _ hresult rfl, hsend]
      simp only [Act.run_get_bind, hfind', List.nil_append]
      cases hclose : c.closeFault? with
      | none =>
        obtain ⟨tr, htr, hdiscard⟩ := run_discard_of_none hr.session hr.child
          (hu ▸ hfind') (by rw [Child.closeFault?_tried, hclose])
        have hr' := revises_release hr.session hr.child u
        rw [show s.counted.uri = u from hu] at hdiscard
        obtain ⟨tr', htr', hreport⟩ :=
          run_transportError_eq u (Fault.transportMessage e) (r'.release u id)
        rw [Act.run_bind_ok (a := true) _ _ _ (congrArg Outcome.result hdiscard), hdiscard,
          bind_pure_comp, Act.run_map, hreport]
        exact .lost e hwrite hclose (hr.trans hr') rfl (by simp [htr, htr'])
      | some g =>
        obtain ⟨r'', hr', hdiscard⟩ := run_discard_of_fault hr.session hr.child
          (hu ▸ hfind') (f := g) (by rw [Child.closeFault?_tried, hclose])
        rw [Act.run_bind_error (f := g) _ _ _ (congrArg Outcome.result hdiscard), hdiscard]
        exact .cut e g hwrite hclose (hr.trans (hu ▸ hr')) rfl rfl
    · rw [sendOrReport, Act.run_catching_unhandled _ _ hresult (by
        cases f <;> simp at hf ⊢), hsend]
      exact .wild f hwrite (fun e he => hf ⟨e, he⟩) hr rfl rfl

lemma sending_changeDocument {text : String} {line : List Char}
    (hline : ((Query.fullBuffer text).stamp (s.lastQuery + 1)).toLine = .ok line) :
    Sending u id (clearing u) s.cleared.counted s.cleared.counted.checking c line r
      ((changeDocument u text).run r) := by
  subst hu
  have hclear := revises_updateSession hfind hs hc fun _ => s.cleared
  have hrun : (onSession id () Session.clear).run r
      = { result := .ok (), state := r.updateSession id fun _ => s.cleared,
          trace := [.event (.publish s.uri []), .notice (.statusClear s.uri),
            .event (.statusClear s.uri)] } := run_onSession_clear hs
  have hsend := sending_sendOrReport hclear.find_self hclear.session hclear.child rfl hline
  rw [changeDocument, Act.run_get_bind]
  simp only [hfind]
  rw [Act.run_bind_ok (a := ()) _ _ _ (congrArg Outcome.result hrun), hrun]
  dsimp only
  cases hsend with
  | taken hwrite hr hresult htrace =>
    have hcheck := revises_updateSession hr.find_self hr.session hr.child fun s' =>
      { s' with checkQuery := (s.lastQuery + 1 : Nat) }
    rw [Act.run_bind_ok _ _ _ hresult]
    refine .taken hwrite ((hclear.trans hr).trans hcheck) rfl ?_
    simp only [Act.run_modify_bind, Act.run_pure, visible_append, List.append_nil]
    exact congrArg (clearing s.uri ++ ·) htrace
  | refused hrefused =>
    refine .refused ?_
    cases hrefused with
    | lost e hwrite hclose hr hresult htrace =>
      rw [Act.run_bind_ok (a := none) _ _ _ hresult]
      refine .lost e hwrite hclose (hclear.trans hr) rfl ?_
      simp only [Act.run_pure, visible_append, List.append_nil]
      exact congrArg (clearing s.uri ++ ·) htrace
    | cut e f hwrite hclose hr hresult htrace =>
      rw [Act.run_bind_error _ _ _ hresult]
      refine .cut e f hwrite hclose (hclear.trans hr) rfl ?_
      simp only [visible_append, htrace]
      rfl
    | wild f hwrite hf hr hresult htrace =>
      rw [Act.run_bind_error _ _ _ hresult]
      refine .wild f hwrite hf (hclear.trans hr) rfl ?_
      simp only [visible_append, htrace]
      rfl

end Sending

end Bridge

/-! ### All that can happen when a document is opened -/

namespace Registry

/-- Each document that is found has an open session of its own. -/
def Serves (r : Registry) : Prop :=
  ∀ u id, r.find? u = some id → ∃ s, r.session? id = some s ∧ s.uri = u ∧ s.closed = false

/-- No slot serves two documents. -/
lemma Serves.injective {r : Registry} (h : r.Serves) {u v : String} {id : Nat}
    (hu : r.find? u = some id) (hv : r.find? v = some id) : u = v := by
  obtain ⟨s, hs, rfl, _⟩ := h u id hu
  obtain ⟨s', hs', rfl, _⟩ := h v id hv
  rw [hs] at hs'
  cases hs'
  rfl

/-- A registry with a new process in a slot of its own. -/
def extend (r : Registry) : Registry := { r with slots := r.slots ++ [{ child := r.plan.child }] }

lemma getElem?_extend (r : Registry) (j : Nat) :
    r.extend.slots[j]?
      = if j = r.slots.length then some { child := r.plan.child } else r.slots[j]? := by
  rw [extend, List.getElem?_append]
  split
  · rename_i hj
    rw [if_neg (Nat.ne_of_lt hj)]
  · rename_i hj
    by_cases hlen : j = r.slots.length
    · simp [hlen]
    · rw [if_neg hlen, List.getElem?_eq_none (by simp; omega), List.getElem?_eq_none (by omega)]

lemma session?_extend (r : Registry) (j : Nat) : r.extend.session? j = r.session? j := by
  rw [session?, job?, getElem?_extend, session?, job?]
  split
  · rename_i hj
    rw [hj, List.getElem?_eq_none (Nat.le_refl _)]
    rfl
  · rfl

lemma child?_extend (r : Registry) (j : Nat) :
    r.extend.child? j = if j = r.slots.length then some r.plan.child else r.child? j := by
  rw [child?, getElem?_extend]
  split <;> rfl

/-- A process is started in the new slot, or there is a fault. -/
lemma run_spawn (command : List String) (directory : Path) (r : Registry) :
    (∃ f, (spawn command directory).run r = { result := .error f, state := r }) ∨
      (spawn command directory).run r
        = { result := .ok r.slots.length, state := r.extend,
            trace := [.spawned r.slots.length command directory.toString] } := by
  rw [spawn, Act.run_get_bind]
  rcases r.plan.error with _ | (e | e | e)
  · exact .inr rfl
  · exact .inl ⟨_, rfl⟩
  · exact .inl ⟨_, rfl⟩
  · exact .inl ⟨_, rfl⟩

/-- A document that is to be opened has lost the session it may have had. -/
inductive Vacates (u : String) (r : Registry) : Registry → Prop where
  | free : r.find? u = none → Vacates u r r
  | left (id : Nat) (s : Session) (c : Child) : r.find? u = some id → r.session? id = some s →
    r.child? id = some c → c.closeFault? = none → Vacates u r (r.release u id)

/-- A document has a new session in a new slot. -/
structure Seats (u : String) (r r' : Registry) : Prop where
  find : ∀ v, r'.find? v = if v = u then some r.slots.length else r.find? v
  session : r'.session? r.slots.length = some { uri := u }
  child : r'.child? r.slots.length = some r.plan.child
  idle : ∀ job, r'.job? r.slots.length = some job → job.reaping = false
  registered : r'.registered = (r.unregister u).registered ++ [(u, r.slots.length)]
  others : ∀ j, j ≠ r.slots.length → r'.slots[j]? = r.slots[j]?
  length : r'.slots.length = r.slots.length + 1
  plan : r'.plan = r.plan

lemma Vacates.length {u : String} {r r' : Registry} (h : Vacates u r r') :
    r'.slots.length = r.slots.length := by
  cases h with
  | free _ => rfl
  | left _ _ _ _ hs hc _ => exact (revises_release hs hc u).length

lemma Vacates.plan {u : String} {r r' : Registry} (h : Vacates u r r') : r'.plan = r.plan := by
  cases h with
  | free _ => rfl
  | left _ _ _ _ _ _ _ => rfl

lemma Vacates.find {u : String} {r r' : Registry} (h : Vacates u r r') (v : String) :
    r'.find? v = if v = u then none else r.find? v := by
  cases h with
  | free hfree =>
    split
    · rename_i hv
      rw [hv, hfree]
    · rfl
  | left _ _ _ _ hs hc _ => exact (revises_release hs hc u).find v

lemma Vacates.session {u : String} {r r' : Registry} (h : Vacates u r r') (j : Nat) :
    r'.session? j = if r.find? u = some j then
    (r.session? j).map Session.ended else r.session? j := by
  cases h with
  | free hfree => simp [hfree]
  | left id s c hfind hs hc _ =>
    rw [(revises_release hs hc u).session_eq, hfind]
    by_cases hj : j = id
    · simp [hj, hs]
    · simp [hj, Ne.symm hj]

lemma Vacates.session_eq_none_iff {u : String} {r r' : Registry} (h : Vacates u r r') (j : Nat) :
    r'.session? j = none ↔ r.session? j = none := by
  rw [h.session]
  split <;> simp

lemma Serves.revises_none {r r' : Registry} {u : String} {id : Nat} {s : Session} {c : Child}
    (h : r.Serves) (hfind : r.find? u = some id) (hr : Revises u id none s c r r') : r'.Serves := by
  intro v j hv
  rw [hr.find] at hv
  split at hv
  · cases hv
  · rename_i hne
    have hj : j ≠ id := fun hj => hne (h.injective hv (hj ▸ hfind))
    rw [hr.session_eq, if_neg hj]
    exact h v j hv

lemma Serves.revises_some {r r' : Registry} {u : String} {id : Nat} {s : Session} {c : Child}
    (h : r.Serves) (hfind : r.find? u = some id) (hr : Revises u id (some id) s c r r')
    (hu : s.uri = u)
    (hopen : s.closed = false) : r'.Serves := by
  intro v j hv
  rw [hr.find] at hv
  split at hv
  · rename_i hvu
    cases hv
    exact ⟨s, hr.session, hu.trans hvu.symm, hopen⟩
  · rename_i hne
    have hj : j ≠ id := fun hj => hne (h.injective hv (hj ▸ hfind))
    rw [hr.session_eq, if_neg hj]
    exact h v j hv

lemma Serves.vacates {r r' : Registry} {u : String} (h : r.Serves) (hv : Vacates u r r') :
    r'.Serves := by
  cases hv with
  | free _ => exact h
  | left id s c hfind hs hc _ => exact h.revises_none hfind (revises_release hs hc u)

lemma session?_length (r : Registry) : r.session? r.slots.length = none := by
  rw [session?, job?, List.getElem?_eq_none (Nat.le_refl _)]
  rfl

lemma Seats.session_eq {r r' : Registry} {u : String} (h : Seats u r r') (j : Nat) :
    r'.session? j = if j = r.slots.length then some { uri := u } else r.session? j := by
  split
  · rename_i hj
    rw [hj, h.session]
  · rename_i hj
    rw [session?, job?, h.others j hj]
    rfl

lemma Serves.seats {r r' : Registry} {u : String} (h : r.Serves) (hr : Seats u r r') :
    r'.Serves := by
  intro v j hv
  rw [hr.find] at hv
  split at hv
  · rename_i hvu
    cases hv
    exact ⟨_, hr.session, hvu.symm, rfl⟩
  · obtain ⟨s, hs, hsu, hopen⟩ := h v j hv
    have hj : j ≠ r.slots.length := by
      rintro rfl
      rw [session?_length] at hs
      cases hs
    exact ⟨s, by rw [hr.session_eq, if_neg hj, hs], hsu, hopen⟩

/-- The document that was opened has a new session with a new process. -/
lemma Seats.views {u : String} {r r₁ r₂ : Registry} (h : Seats u r₁ r₂) (hv : Vacates u r r₁) :
    r₂.find? u = some r.slots.length ∧ r₂.session? r.slots.length = some { uri := u } ∧
      r₂.child? r.slots.length = some r.plan.child := by
  rw [← hv.length, ← hv.plan]
  exact ⟨(h.find u).trans (if_pos rfl), h.session, h.child⟩

lemma seats_register {r : Registry} {u : String} {job : Job} (hjob : job.session = { uri := u })
    (hidle : job.reaping = false) :
    Seats u r ((r.extend.updateSlot r.slots.length fun s => { s with job := some job }).register u
      r.slots.length) := by
  have hslot : ∀ j,
      ((r.extend.updateSlot r.slots.length fun s => { s with job := some job }).register u
          r.slots.length).slots[j]?
        = if j = r.slots.length then some { child := r.plan.child, job := some job }
          else r.slots[j]? := by
    intro j
    rw [register, unregister, getElem?_updateSlot, getElem?_extend]
    by_cases hj : j = r.slots.length
    · simp [hj]
    · simp [hj, Ne.symm hj]
  have hnew := hslot r.slots.length
  rw [if_pos rfl] at hnew
  refine ⟨fun v => ?_, ?_, child?_of_slot hnew, fun job' hjob' => ?_, rfl, fun j hj => ?_, ?_, rfl⟩
  · rw [find?_register]
    rfl
  · rw [session?_of_slot hnew, hjob]
  · rw [job?, hnew] at hjob'
    cases hjob'
    exact hidle
  · rw [hslot, if_neg hj]
  · rw [register, unregister, updateSlot, extend]
    simp

/-- All that can happen when a session is to be started. -/
inductive Starting (u : String) (r : Registry) (o : Outcome Registry Nat) : Prop where
  /-- The old session cannot be ended. -/
  | stuck (id : Nat) (s : Session) (c : Child) (f : Fault) : r.find? u = some id →
    r.session? id = some s → r.child? id = some c → c.closeFault? = some f →
    Revises u id none s.ended c.shut r o.state → o.result = .error f → visible o.trace = [] →
    Starting u r o
  /-- No process is started. -/
  | failed (f : Fault) : Vacates u r o.state → o.result = .error f → visible o.trace = [] →
    Starting u r o
  /-- A process is started, but it lacks pipes. -/
  | pipeless {r' : Registry} (f : Fault) (command : List String) (directory : String) :
    Vacates u r r' → o.state = r'.extend → o.result = .error f →
    (∀ executable e, f ≠ .spawn executable e) →
    visible o.trace = [.spawned r.slots.length command directory] → Starting u r o
  | seated {r' : Registry} (command : List String) (directory : String) : Vacates u r r' →
    Seats u r' o.state → r.plan.child.stdin.attached = true → o.result = .ok r.slots.length →
    visible o.trace = [.spawned r.slots.length command directory] → Starting u r o

lemma close_cases (u : String) {r : Registry} (h : r.Serves) :
    (∃ tr r' b, visible tr = [] ∧ Vacates u r r' ∧
        (close u).run r = { result := .ok b, state := r', trace := tr }) ∨
      ∃ id s c f r', r.find? u = some id ∧ r.session? id = some s ∧ r.child? id = some c ∧
        c.closeFault? = some f ∧ Revises u id none s.ended c.shut r r' ∧
        (close u).run r = { result := .error f, state := r' } := by
  rw [close, Act.run_get_bind]
  cases hfind : r.find? u with
  | none => exact .inl ⟨[], r, false, rfl, .free hfind, rfl⟩
  | some id =>
    obtain ⟨s, hs, -, -⟩ := h u id hfind
    obtain ⟨c, hc⟩ := exists_child_of_session hs
    simp only [Act.run_modify_bind, bind_pure_comp, Act.run_map]
    cases hclose : c.closeFault? with
    | none =>
      obtain ⟨tr, htr, hrun⟩ := run_terminate_unregister_of_none hs hc hclose u
      rw [hrun]
      exact .inl ⟨tr, _, true, htr, .left id s c hfind hs hc hclose, rfl⟩
    | some f =>
      obtain ⟨r', hr, hrun⟩ := run_terminate_unregister_of_fault hs hc hclose u
      rw [hrun]
      exact .inr ⟨id, s, c, f, r', rfl, hs, hc, hclose, hr, rfl⟩

lemma starting_openSession (u : String) (directory : Path) (file : String) {r : Registry}
    (h : r.Serves) :
    Starting u r ((openSession u directory file).run r) := by
  rw [openSession]
  rcases close_cases u h with
    ⟨tr, r₁, b, htr, hvacates, hclose⟩ | ⟨id, s, c, f, r', hfind, hs, hc, hf, hr, hclose⟩
  · rw [Act.run_bind_ok (a := b) _ _ _ (congrArg Outcome.result hclose), hclose]
    simp only [Act.run_get_bind, Act.run_log_bind]
    rcases run_spawn (r₁.config.command file) directory r₁ with ⟨f, hspawn⟩ | hspawn
    · rw [Act.run_bind_error (f := f) _ _ _ (congrArg Outcome.result hspawn), hspawn]
      exact .failed f hvacates rfl (by simp [htr])
    · rw [Act.run_bind_ok (a := r₁.slots.length) _ _ _ (congrArg Outcome.result hspawn), hspawn]
      split
      · rename_i hpipes
        rw [Bool.and_eq_true] at hpipes
        refine .seated (r₁.config.command file) directory.toString hvacates
          (seats_register rfl rfl)
          (hvacates.plan ▸ hpipes.1) (congrArg Except.ok hvacates.length) ?_
        simp [htr, hvacates.length]
      · refine .pipeless _ (r₁.config.command file) directory.toString hvacates rfl rfl (by simp) ?_
        simp [htr, hvacates.length]
  · rw [Act.run_bind_error (f := f) _ _ _ (congrArg Outcome.result hclose), hclose]
    exact .stuck id s c f hfind hs hc hf hr rfl rfl

/-- All that can happen when a document is opened. -/
inductive Opening (u text : String) (r : Registry) (o : Outcome Registry (Option Nat)) : Prop where
  /-- The old session cannot be ended. -/
  | stuck (id : Nat) (s : Session) (c : Child) (f : Fault) : r.find? u = some id →
    r.session? id = some s → r.child? id = some c → c.closeFault? = some f →
    Revises u id none s.ended c.shut r o.state → o.result = .error f → visible o.trace = [] →
    Opening u text r o
  /-- No process is started, and that is reported. -/
  | unstarted (message : String) : Vacates u r o.state → o.result = .ok none →
    visible o.trace = report u message → Opening u text r o
  /-- No process is started, by a fault that nobody handles. -/
  | failed (f : Fault) : Vacates u r o.state → o.result = .error f → visible o.trace = [] →
    Opening u text r o
  /-- A process is started, but it lacks pipes. -/
  | pipeless {r' : Registry} (f : Fault) (command : List String) (directory : String) :
    Vacates u r r' → o.state = r'.extend → o.result = .error f →
    visible o.trace = [.spawned r.slots.length command directory] → Opening u text r o
  /-- The new checker does not take the text. -/
  | refused {r₁ r₂ : Registry} {o₁ : Outcome Registry (Option Nat)} (command : List String)
    (directory : String) : Vacates u r r₁ → Seats u r₁ r₂ →
    Refusing u r.slots.length [] { uri := u, lastQuery := 1 } r.plan.child r₂ o₁ →
    r.plan.child.stdin.attached = true → o.state = o₁.state → o.result = o₁.result →
    visible o.trace = .spawned r.slots.length command directory :: visible o₁.trace →
    Opening u text r o
  /-- The new checker takes the text and is asked to check it. -/
  | checked {r₁ r₂ r₃ : Registry} {o₂ : Outcome Registry (Option Nat)} {line line' : List Char}
    (command : List String) (directory : String) : Vacates u r r₁ → Seats u r₁ r₂ →
    ((Query.vfsAdd text).stamp 1).toLine = .ok line → r.plan.child.writeFault? u = none →
    Revises u r.slots.length (some r.slots.length) { uri := u, lastQuery := 1 } r.plan.child.tried
      r₂ r₃ →
    ((Query.fullBuffer text).stamp 2).toLine = .ok line' →
    Sending u r.slots.length (clearing u) { uri := u, lastQuery := 2 }
      { uri := u, lastQuery := 2, checkQuery := 2 } r.plan.child.tried line' r₃ o₂ →
    o.state = o₂.state → o.result = o₂.result.map (fun _ => some r.slots.length) →
    visible o.trace = .spawned r.slots.length command directory :: .wrote r.slots.length line ::
      visible o₂.trace → Opening u text r o

end Registry

namespace Bridge

open Registry

/-- A started session is given the text and asked to check it. Whatever happens, it stays in its
slot. -/
lemma opening_of_seats {u text : String} {r r₁ r₂ : Registry} {command : List String}
    {directory : String} (hvacates : Vacates u r r₁) (hseats : Seats u r₁ r₂)
    (hattached : r.plan.child.stdin.attached = true) {front : List Effect}
    (hfront : visible front = [.spawned r.slots.length command directory])
    {next : Option Nat → Act Registry (Option Nat)} {o : Outcome Registry (Option Nat)}
    (ho : (sendOrReport u (.vfsAdd text) >>= next).run r₂ = o) (hnone : next none = pure none)
    (hsome : ∀ n, next (some n) = changeDocument u text >>= fun _ => pure (some r.slots.length)) :
    Opening u text r { o with trace := front ++ o.trace } ∧
      o.state.session? r.slots.length ≠ none := by
  obtain ⟨hfind, hs, hc⟩ := hseats.views hvacates
  have hsend := sending_sendOrReport hfind hs hc rfl (Query.toLine_vfsAdd text 1)
  rw [← ho]
  cases hsend with
  | refused hrefused =>
    -- whatever the reason, the outcome is that of the query
    have hsame : (sendOrReport u (.vfsAdd text) >>= next).run r₂
        = (sendOrReport u (.vfsAdd text)).run r₂ := by
      cases hrefused with
      | lost e _ _ _ hresult _ =>
        rw [Act.run_bind_ok (a := none) _ _ _ hresult, hnone]
        simp only [Act.run_pure, List.append_nil, ← hresult]
      | cut e f _ _ _ hresult _ => rw [Act.run_bind_error _ _ _ hresult, ← hresult]
      | wild f _ _ _ hresult _ => rw [Act.run_bind_error _ _ _ hresult, ← hresult]
    obtain ⟨t, ht⟩ := hrefused.session_eq
    rw [hsame]
    refine ⟨.refused command directory hvacates hseats hrefused hattached rfl rfl
      (by simp [hfront]), ?_⟩
    rw [ht, if_pos rfl]
    simp
  | taken hwrite hr hresult htrace =>
    have hchange := sending_changeDocument hr.find_self hr.session hr.child rfl
      (Query.toLine_fullBuffer text 2)
    obtain ⟨t, ht⟩ := hchange.session_eq
    rw [Act.run_bind_ok _ _ _ hresult, hsome, bind_pure_comp, Act.run_map]
    refine ⟨.checked command directory hvacates hseats (Query.toLine_vfsAdd text 1) hwrite hr
      (Query.toLine_fullBuffer text 2) hchange rfl rfl (by simp [hfront, htrace]), ?_⟩
    rw [ht, if_pos rfl]
    simp

lemma run_startSession_of_ok {u : String} {path : Path} {r : Registry} {id : Nat}
    (h : ((openSession u path.parent path.name).run r).result = .ok id) :
    (startSession u path).run r
      = { (openSession u path.parent path.name).run r with result := .ok (some id) } := by
  have hmap : ((some <$> openSession u path.parent path.name).run r).result = .ok (some id) := by
    rw [Act.run_map, h]
    rfl
  refine (Act.run_catching_ok _ _ hmap).trans ?_
  rw [Act.run_map, h]
  rfl

lemma run_startSession_of_error {u : String} {path : Path} {r : Registry} {f : Fault}
    (h : ((openSession u path.parent path.name).run r).result = .error f)
    (hf : ∀ executable e, f ≠ .spawn executable e) :
    (startSession u path).run r
      = { (openSession u path.parent path.name).run r with result := .error f } := by
  have hmap : ((some <$> openSession u path.parent path.name).run r).result = .error f := by
    rw [Act.run_map, h]
    rfl
  refine (Act.run_catching_unhandled _ _ hmap (by cases f <;> simp at hf ⊢)).trans ?_
  rw [Act.run_map, h]
  rfl

lemma run_startSession_of_spawn {u : String} {path : Path} {r : Registry} {executable : String}
    {e : OsError}
    (h : ((openSession u path.parent path.name).run r).result = .error (.spawn executable e)) :
    ∃ tr, visible tr = visible ((openSession u path.parent path.name).run r).trace
        ++ report u (Fault.spawnMessage executable e) ∧
      (startSession u path).run r
        = { result := .ok none, state := ((openSession u path.parent path.name).run r).state,
            trace := tr } := by
  have hmap : ((some <$> openSession u path.parent path.name).run r).result
      = .error (.spawn executable e) := by
    rw [Act.run_map, h]
    rfl
  obtain ⟨tr, htr, hreport⟩ := run_transportError_eq u (Fault.spawnMessage executable e)
    ((openSession u path.parent path.name).run r).state
  refine ⟨((openSession u path.parent path.name).run r).trace ++ tr,
    by rw [visible_append, htr], ?_⟩
  rw [startSession, show Act.bind (openSession u path.parent path.name) (fun id => pure (some id))
    = some <$> openSession u path.parent path.name from rfl, Act.run_catching_handled _ _ hmap rfl,
    Act.run_map, bind_pure_comp, Act.run_map, hreport]
  rfl

/-- A document is opened and no process can be started. -/
lemma openDocument_of_spawn {u : String} {path : Path} {r : Registry} {executable : String}
    {e : OsError} (h : r.Serves)
    (hresult : ((openSession u path.parent path.name).run r).result = .error (.spawn executable e))
    (text : String) :
    Vacates u r ((openDocument u text path).run r).state ∧
      ((openDocument u text path).run r).result = .ok none ∧
      visible ((openDocument u text path).run r).trace
        = report u (Fault.spawnMessage executable e) := by
  obtain ⟨tr, htr, hstart⟩ := run_startSession_of_spawn hresult
  rw [openDocument, Act.run_log_bind,
    Act.run_bind_ok (a := none) _ _ _ (congrArg Outcome.result hstart), hstart]
  cases starting_openSession u path.parent path.name h with
  | stuck id s c f _ _ _ hf _ herror _ =>
    obtain ⟨e', rfl⟩ := Child.exists_pipe_of_closeFault? hf
    cases hresult.symm.trans herror
  | failed f hvacates _ htrace => exact ⟨hvacates, rfl, by simp [htr, htrace]⟩
  | pipeless f _ _ _ _ herror hf _ =>
    cases hresult.symm.trans herror
    exact absurd rfl (hf executable e)
  | seated _ _ _ _ _ hok _ => cases hresult.symm.trans hok

/-- A document is opened and a session is started. -/
lemma opening_of_started {u : String} {path : Path} {r : Registry} {id : Nat} (h : r.Serves)
    (hresult : ((openSession u path.parent path.name).run r).result = .ok id) (text : String) :
    Opening u text r ((openDocument u text path).run r) ∧
      ((openDocument u text path).run r).state.session? r.slots.length ≠ none := by
  have hstart := run_startSession_of_ok hresult
  cases starting_openSession u path.parent path.name h with
  | stuck _ _ _ _ _ _ _ _ _ herror _ => cases hresult.symm.trans herror
  | failed _ _ herror _ => cases hresult.symm.trans herror
  | pipeless _ _ _ _ _ herror _ _ => cases hresult.symm.trans herror
  | seated command directory hvacates hseats hattached hok htrace =>
    cases hresult.symm.trans hok
    rw [openDocument, Act.run_log_bind,
      Act.run_bind_ok (a := some r.slots.length) _ _ _ (congrArg Outcome.result hstart), hstart]
    dsimp only
    generalize ho : (sendOrReport u (.vfsAdd text) >>= _).run _ = o
    exact opening_of_seats hvacates hseats hattached ((visible_notice _ _).trans htrace) ho rfl
      fun _ => rfl

lemma opening_openDocument (u text : String) (path : Path) {r : Registry} (h : r.Serves) :
    Opening u text r ((openDocument u text path).run r) := by
  cases starting_openSession u path.parent path.name h with
  | stuck id s c f hfind hs hc hf hr hresult htrace =>
    obtain ⟨e, rfl⟩ := Child.exists_pipe_of_closeFault? hf
    have hstart := run_startSession_of_error hresult (by simp)
    rw [openDocument, Act.run_log_bind,
      Act.run_bind_error _ _ _ (congrArg Outcome.result hstart), hstart]
    exact .stuck id s c _ hfind hs hc hf hr rfl htrace
  | failed f hvacates hresult htrace =>
    by_cases hf : ∃ executable e, f = .spawn executable e
    · obtain ⟨executable, e, rfl⟩ := hf
      obtain ⟨hstate, hnone, hreport⟩ := openDocument_of_spawn h hresult text
      exact .unstarted (Fault.spawnMessage executable e) hstate hnone hreport
    · have hstart := run_startSession_of_error hresult fun executable e he => hf ⟨executable, e, he⟩
      rw [openDocument, Act.run_log_bind,
        Act.run_bind_error _ _ _ (congrArg Outcome.result hstart), hstart]
      exact .failed f hvacates rfl htrace
  | pipeless f command directory hvacates hstate hresult hf htrace =>
    have hstart := run_startSession_of_error hresult hf
    rw [openDocument, Act.run_log_bind,
      Act.run_bind_error _ _ _ (congrArg Outcome.result hstart), hstart]
    exact .pipeless f command directory hvacates hstate rfl htrace
  | seated _ _ _ _ _ hresult _ => exact (opening_of_started h hresult text).1

variable [Limits]

/-- A document is opened at some path, unless its URI leads to none. -/
lemma run_openStep (u text : String) (path : Option Path) (r : Registry) :
    (∃ path', (Step.openDocument u text path).act.run r
        = (Reply.number <$> openDocument u text path').run r) ∨
      ∃ f, (Step.openDocument u text path).act.run r = { result := .error f, state := r } := by
  cases path with
  | some path => exact .inl ⟨path, rfl⟩
  | none =>
    rw [Step.act, Act.run_map, openUri]
    cases (Uri.toPath u).mapError Fault.uri with
    | error f => exact .inr ⟨f, rfl⟩
    | ok path => exact .inl ⟨path, (Act.run_map ..).symm⟩

lemma opening_openStep (u text : String) (path : Option Path) {r : Registry} (h : r.Serves) :
    (∃ o, Opening u text r o ∧ (Step.openDocument u text path).act.run r
        = { result := o.result.map .number, state := o.state, trace := o.trace }) ∨
      ∃ f, (Step.openDocument u text path).act.run r = { result := .error f, state := r } := by
  rcases run_openStep u text path r with ⟨path', hrun⟩ | hfault
  · exact .inl ⟨_, opening_openDocument u text path' h, hrun.trans (Act.run_map ..)⟩
  · exact .inr hfault

end Bridge

end ProverLink
