import ProverLink.Proofs.Lines
import ProverLink.Proofs.Moves

/-!
# Operations as moves

What each operation on documents comes down to, told in moves. All that can happen in an operation
is known already, and each of these outcomes is put together from moves, those that are faults as
well.
-/

namespace ProverLink

/-! ### Pipes -/

namespace Child

/-- Whether the pipe of a process is there if that of another is, and as tame. -/
structure KeepsPipe (c c' : Child) : Prop where
  tame : c.stdin.IsTame → c'.stdin.IsTame
  attached : c'.stdin.attached = c.stdin.attached

namespace KeepsPipe

lemma refl (c : Child) : c.KeepsPipe c := ⟨id, rfl⟩

lemma trans {c c' c'' : Child} (h : c.KeepsPipe c') (h' : c'.KeepsPipe c'') : c.KeepsPipe c'' :=
  ⟨h'.tame ∘ h.tame, h'.attached.trans h.attached⟩

lemma tried (c : Child) : c.KeepsPipe c.tried := by
  rw [Child.tried]
  split
  · exact ⟨fun h => ⟨writesWell_afterWrite h.write, h.close⟩, rfl⟩
  · exact refl c

lemma shut (c : Child) : c.KeepsPipe c.shut := by
  rw [Child.shut]
  split
  · exact ⟨fun h => ⟨h.write, h.close⟩, rfl⟩
  · exact refl c

lemma released (c : Child) : c.KeepsPipe c.released := by
  refine (shut c).trans ?_
  rw [Child.released]
  split
  · exact refl _
  · rw [terminate]
    split <;> exact ⟨fun h => ⟨h.write, h.close⟩, rfl⟩

end KeepsPipe

lemma closeFault?_eq_none {c : Child} (h : c.stdin.IsTame) : c.closeFault? = none := by
  rw [closeFault?, h.close, ite_self]

end Child

namespace Registry

/-! ### Changes in one slot -/

namespace Revises

variable {u : String} {id : Nat} {found : Option Nat} {s s' : Session} {c c' : Child}
  {r r' : Registry} (hs : r.session? id = some s) (hc : r.child? id = some c)
  (hpipe : c.KeepsPipe c')

include hs hc hpipe

lemma tame (h : Revises u id found s' c' r r') (hr : r.Tame) : r'.Tame := by
  refine hr.of_views h.plan (fun j d hd => ?_) fun j t ht => ?_
  · rw [h.child_eq] at hd
    split at hd
    · rename_i hj
      cases hd
      exact ⟨c, hj ▸ hc, hpipe.tame, hpipe.attached⟩
    · exact ⟨d, hd, fun hd => hd, rfl⟩
  · rw [h.session_eq] at ht
    split at ht
    · rename_i hj
      exact ⟨s, hj ▸ hs⟩
    · exact ⟨t, ht⟩

lemma sets (h : Revises u id found s' c' r r') (hfind : r.find? u = found) : Sets id s' r r' where
  find v := by
    rw [h.find]
    split
    · rename_i hv
      rw [hv, hfind]
    · rfl
  session := h.session_eq
  tame := h.tame hs hc hpipe

lemma alike (h : Revises u id found s c' r r') (hfind : r.find? u = found) : Alike r r' where
  find := (h.sets hs hc hpipe hfind).find
  session j := by
    rw [h.session_eq]
    split
    · rename_i hj
      rw [hj, hs]
    · rfl
  tame := h.tame hs hc hpipe

lemma retires (h : Revises u id none s.ended c' r r') : Retires u id r r' where
  find := h.find
  session j := by
    rw [h.session_eq]
    split
    · rename_i hj
      rw [hj, hs]
      rfl
    · rfl
  tame := h.tame hs hc hpipe

end Revises

/-! ### Ending sessions -/

lemma Ends.refl (r : Registry) : Ends [] r r := ⟨fun _ => rfl, fun _ => by simp, fun h => h⟩

lemma Ends.trans {r r' r'' : Registry} {ids ids' : List Nat} (h : Ends ids r r')
    (h' : Ends ids' r' r'') : Ends (ids ++ ids') r r'' where
  find v := (h'.find v).trans (h.find v)
  session j := by
    rw [h'.session, h.session]
    by_cases hj : j ∈ ids <;> by_cases hj' : j ∈ ids' <;> simp [hj, hj', Function.comp_def]
  tame := h'.tame ∘ h.tame

lemma Sets.ends {r r' : Registry} {id : Nat} {s : Session} (h : Sets id s.ended r r')
    (hs : r.session? id = some s) : Ends [id] r r' where
  find := h.find
  session j := by
    rw [h.session]
    by_cases hj : j = id
    · simp [hj, hs]
    · simp [hj]
  tame := h.tame

/-- The session in a slot ends, whatever becomes of its process. -/
lemma ends_terminate (id : Nat) (r : Registry) :
    Ends [id] r ((terminate id).run r).state ∧ visible ((terminate id).run r).trace = [] ∧
      (r.Tame → ((terminate id).run r).result = .ok ()) := by
  cases hs : r.session? id with
  | none =>
    rw [run_terminate_of_vacant hs]
    refine ⟨⟨fun _ => rfl, fun j => ?_, fun h => h⟩, rfl, fun _ => rfl⟩
    by_cases hj : j = id
    · simp [hj, hs]
    · simp [hj]
  | some s =>
    obtain ⟨c, hc⟩ := exists_child_of_session hs
    obtain ⟨job, rfl, hslot⟩ := exists_slot_of_session hs hc
    cases hclose : c.closeFault? with
    | none =>
      obtain ⟨tr, htr, hrun⟩ := run_terminate_of_none hslot hclose
      have hr :=
        @revises_updateSlot r job.session.uri id _ _ Slot.released c.released _ rfl hslot rfl
      rw [hrun]
      exact ⟨(hr.sets hs hc (.released c) rfl).ends hs, htr, fun _ => rfl⟩
    | some f =>
      have hr := @revises_updateSlot r job.session.uri id _ _ Slot.cut c.shut _ rfl hslot rfl
      rw [run_terminate_of_fault hslot hclose]
      refine ⟨(hr.sets hs hc (.shut c) rfl).ends hs, rfl, fun htame => ?_⟩
      rw [Child.closeFault?_eq_none (htame.pipes id c hc)] at hclose
      cases hclose

/-- Sessions end one after the other, up to the first whose pipe cannot be closed. -/
lemma ends_each_terminate (ids : List Nat) (r : Registry) :
    ∃ gone, Ends gone r ((Act.each terminate ids).run r).state ∧
      visible ((Act.each terminate ids).run r).trace = [] ∧
      (((Act.each terminate ids).run r).result = .ok () → gone = ids) ∧
      (r.Tame → ((Act.each terminate ids).run r).result = .ok ()) := by
  induction ids generalizing r with
  | nil => exact ⟨[], .refl r, rfl, fun _ => rfl, fun _ => rfl⟩
  | cons id rest ih =>
    obtain ⟨hends, hsilent, hok⟩ := ends_terminate id r
    cases hr : ((terminate id).run r).result with
    | error f =>
      rw [Act.each_cons, Act.run_bind_error _ _ _ hr]
      exact ⟨[id], hends, hsilent, nofun, fun htame => by simp [hok htame] at hr⟩
    | ok _ =>
      obtain ⟨gone, hends', hsilent', hall, hok'⟩ := ih ((terminate id).run r).state
      rw [Act.each_cons, Act.run_bind_ok _ _ _ hr]
      exact ⟨id :: gone, hends.trans hends', by simp [hsilent, hsilent'],
        fun h => congrArg _ (hall h), fun htame => hok' (hends.tame htame)⟩

lemma updateSession_const_const (r : Registry) (id : Nat) (s s' : Session) :
    ((r.updateSession id fun _ => s).updateSession id fun _ => s')
      = r.updateSession id fun _ => s' :=
  updateJob_updateJob ..

lemma mem_registered_of_find? {r : Registry} {u : String} {id : Nat} (h : r.find? u = some id) :
    id ∈ r.registered.map (·.2) := by
  obtain ⟨e, he, rfl⟩ := Option.map_eq_some_iff.1 h
  exact List.mem_map_of_mem (List.mem_of_find?_eq_some he)

/-- A shutdown ends sessions, and if it does not break off it ends all of them. -/
lemma ends_shutdown (r : Registry) :
    ∃ gone, Ends gone { r with registered := [] } (Bridge.shutdown.run r).state ∧
      visible (Bridge.shutdown.run r).trace = [] ∧
      ((Bridge.shutdown.run r).result = .ok () → ∀ u id, r.find? u = some id → id ∈ gone) ∧
      (r.Tame → (Bridge.shutdown.run r).result = .ok ()) := by
  rw [Bridge.shutdown, closeAll, Act.run_get_bind, Act.run_modify_bind]
  obtain ⟨gone, hends, hsilent, hall, hok⟩ := ends_each_terminate (r.registered.map (·.2))
    { r with registered := [] }
  refine ⟨gone, hends, hsilent, fun h u id hfind => ?_, fun h => hok ⟨h.plan, h.pipes, h.wired⟩⟩
  rw [hall h]
  exact mem_registered_of_find? hfind

/-! ### New and old processes -/

lemma alike_extend (r : Registry) : Alike r r.extend where
  find _ := rfl
  session := session?_extend r
  tame h := by
    refine ⟨h.plan, fun j c hc => ?_, fun j s c hs hc => ?_⟩
    · rw [child?_extend] at hc
      split at hc
      · exact Option.some.inj hc ▸ h.plan
      · exact h.pipes j c hc
    · rw [session?_extend] at hs
      have hj : j ≠ r.slots.length := by
        rintro rfl
        rw [session?_length] at hs
        cases hs
      rw [child?_extend, if_neg hj] at hc
      exact h.wired j s c hs hc

/-- A document without a session has got one in the new slot. -/
lemma Seats.adopts {u : String} {r r₁ r₂ : Registry} (h : Seats u r₁ r₂) (hvacates : Vacates u r r₁)
    (hattached : r.plan.child.stdin.attached = true) : Adopts u r.slots.length r₁ r₂ := by
  have hid := hvacates.length
  rw [← hvacates.plan] at hattached
  rw [← hid]
  refine ⟨by rw [hvacates.find, if_pos rfl], session?_length r₁, h.find, h.session_eq,
    fun htame => ⟨h.plan ▸ htame.plan, fun j c hc => ?_, fun j s c hs hc => ?_⟩⟩
  · by_cases hj : j = r₁.slots.length
    · rw [hj, h.child, Option.some.injEq] at hc
      exact hc ▸ htame.plan
    · rw [child?, h.others j hj] at hc
      exact htame.pipes j c hc
  · by_cases hj : j = r₁.slots.length
    · rw [hj, h.child, Option.some.injEq] at hc
      exact hc ▸ hattached
    · rw [session?, job?, h.others j hj] at hs
      rw [child?, h.others j hj] at hc
      exact htame.wired j s c hs hc

/-- An act that leaves documents and sessions alone and is not seen. -/
structure Quiet {α : Type} (r : Registry) (o : Outcome Registry α) : Prop where
  alike : r.Alike o.state
  silent : visible o.trace = []

lemma quiet_reap (id : Nat) (r : Registry) : Quiet r ((reap id).run r) := by
  rw [reap, Act.run_get_bind]
  split
  · rename_i s _ _ _ c _ _
    have hjob : Alike r (r.updateJob id fun j => { j with reaping := false }) :=
      alike_updateJob r id fun _ => rfl
    have hkill := hjob.trans (alike_updateChild _ id (f := Child.kill) (fun c hc => by
      rw [Child.kill]
      split <;> exact hc) fun c => by
      rw [Child.kill]
      split <;> rfl)
    rw [Act.run_modify_bind]
    split
    · rw [Act.run_log_bind, Act.run_modify_bind]
      split <;> exact ⟨hkill, rfl⟩
    · exact ⟨hjob, rfl⟩
  · exact ⟨.refl r, rfl⟩

lemma mapChildren_views (change : Nat → Child → Child) (r : Registry) (j : Nat) :
    (r.mapChildren change).session? j = r.session? j ∧
      (r.mapChildren change).child? j = (r.child? j).map (change j) := by
  rw [session?, job?, child?, mapChildren, List.getElem?_mapIdx, session?, job?, child?]
  cases r.slots[j]? <;> exact ⟨rfl, rfl⟩

variable [Limits]

/-! ### Losing a session -/

lemma Vacates.moves {u : String} {r r' : Registry} (h : Vacates u r r') : Moves u r [] [] r' := by
  cases h with
  | free _ => exact .refl
  | left id s c hfind hs hc _ =>
    exact .single (.retired hfind ((revises_release hs hc u).retires hs hc (.released c)))

/-- Closing a document takes its session away, if there is one. -/
lemma moves_close {r : Registry} (hserves : r.Serves) (u : String) :
    Moves u r (visible ((close u).run r).trace) [] ((close u).run r).state := by
  rcases close_cases u hserves with
    ⟨tr, _, _, htr, hvacates, hrun⟩ | ⟨id, s, c, f, r', hfind, hs, hc, -, hr, hrun⟩
  · rw [hrun, htr]
    exact hvacates.moves
  · rw [hrun]
    exact .single (.retired hfind (hr.retires hs hc (.shut c)))

/-! ### Queries -/

section Queries

variable {r r₁ : Registry} {u text : String} {id : Nat} {front : List Effect} {s : Session}
  {c : Child} {line : List Char} {o : Outcome Registry (Option Nat)}

/-- A query that is not taken and was counted: the document loses its session, which is reported
unless there is a fault on the way, or nothing else happens. -/
lemma Refusing.moves (h : Refusing u id front s c r o) (hr₁ : Revises u id (some id) s c r r₁) :
    ∃ behind, visible o.trace = front ++ behind ∧ Moves u r₁ behind [] o.state ∧
      (r₁.Tame → o.state.find? u = none) := by
  cases h with
  | lost e _ _ hr _ htrace =>
    have hretires := (hr₁.rebase hr).retires hr₁.session hr₁.child
      ((Child.KeepsPipe.tried c).trans (.released _))
    exact ⟨_, htrace, (Moves.single (.retired hr₁.find_self hretires)).report hr.find_self _,
      fun _ => hr.find_self⟩
  | cut e f _ _ hr _ htrace =>
    have hretires := (hr₁.rebase hr).retires hr₁.session hr₁.child
      ((Child.KeepsPipe.tried c).trans (.shut _))
    exact ⟨[], by rw [htrace, List.append_nil], .single (.retired hr₁.find_self hretires),
      fun _ => hr.find_self⟩
  | wild f hwrite hf hr _ htrace =>
    have halike := (hr₁.rebase hr).alike hr₁.session hr₁.child (.tried c) hr₁.find_self
    refine ⟨[], by rw [htrace, List.append_nil], .single (.idle halike), fun htame => ?_⟩
    -- writing on a tame pipe has no such fault
    have hfair : c.IsFair := ⟨htame.wired id s c hr₁.session hr₁.child,
      (htame.pipes id c hr₁.child).write⟩
    obtain ⟨e, he⟩ := hfair.transport hwrite
    exact absurd he (hf e)

/-- A check that is asked for clears the diagnostics, whether or not the query is taken. -/
lemma Sending.moves (hfind : r.find? u = some id) (hs : r.session? id = some s)
    (hc : r.child? id = some c) (hu : s.uri = u)
    (hline : ((Query.fullBuffer text).stamp (s.lastQuery + 1)).toLine = .ok line)
    (h : Sending u id (clearing u) s.cleared.counted s.cleared.counted.checking c line r o) :
    Moves u r (visible o.trace) [.cleared id] o.state ∧
      (r.Tame → ∀ j t, o.state.find? u = some j → o.state.session? j = some t →
        t.lastQuery = s.lastQuery + 1) := by
  cases h with
  | taken _ hr _ htrace =>
    have hset := hr.sets hs hc (.tried c) hfind
    refine ⟨?_, fun _ j t hj ht => ?_⟩
    · rw [htrace]
      exact .single (.checked text hfind hs hu hline hset)
    · rw [hr.find_self, Option.some.injEq] at hj
      rw [← hj, hr.session, Option.some.injEq] at ht
      rw [← ht]
      rfl
  | refused hrefused =>
    have hr₁ := revises_updateSession hfind hs hc fun _ => s.cleared.counted
    have hunchecked := Move.unchecked hfind hs hu (hr₁.sets hs hc (.refl c) hfind)
    obtain ⟨behind, htrace, hmoves, hgone⟩ := hrefused.moves hr₁
    refine ⟨?_, fun htame j t hj _ => ?_⟩
    · rw [htrace]
      exact (Moves.single hunchecked).trans hmoves
    · rw [hgone (hr₁.tame hs hc (.refl c) htame)] at hj
      cases hj

end Queries

/-! ### Output -/

lemma moves_hears {u : String} {check : Int} {ds ds' : List Diagnostic} {lines : List (List Char)}
    {es : List EditorEvent} (h : Session.Hears u check ds lines es ds') {r : Registry} {id : Nat}
    {s : Session} (hs : r.session? id = some s) (hu : s.uri = u) (hcheck : s.checkQuery = check)
    (hds : s.diagnostics = ds) (hopen : s.closed = false) :
    Moves u r (es.map .event) (lines.map (.line id check))
      (r.updateSession id fun _ => { s with diagnostics := ds' }) := by
  induction h generalizing r s with
  | nil =>
    subst hds
    rw [updateSession_const_self hs]
    exact .refl
  | cons line _ ih =>
    subst hu hcheck hds
    have hset := sets_updateSession hs fun s => { s with diagnostics :=
      s.diagnostics ++ (Session.yield s.checkQuery line).diagnostics }
    have hrest := ih ((hset.session id).trans (if_pos rfl)) rfl rfl rfl hopen
    simp only [updateSession, updateJob_updateJob] at hrest
    rw [List.map_append]
    exact (Moves.single (.heard line hs rfl hopen hset)).trans hrest

/-- Lines are acted upon, and another text is pending. -/
lemma moves_hearsLines {lines : List (List Char)} {es : List EditorEvent} {ds : List Diagnostic}
    {r : Registry} {id : Nat} {s : Session} (h : s.HearsLines lines es ds)
    (hs : r.session? id = some s) (hopen : s.closed = false) {b : LineBuffer}
    (hb : '\n' ∉ b.pending) :
    Moves s.uri r (es.map .event) ((Session.reached s.checkQuery lines).map (.line id s.checkQuery))
      (r.updateSession id fun _ => s.heard ds b) := by
  have hset := sets_updateSession hs fun _ => { s with diagnostics := ds }
  have hs' := (hset.session id).trans (if_pos rfl)
  have hbuffered := sets_updateSession hs' fun _ => s.heard ds b
  rw [updateSession_const_const] at hbuffered
  simpa using (moves_hears h hs rfl rfl rfl hopen).snoc (.buffered b hs' rfl hb hbuffered)

/-- What a slot takes in of some lines, if its session is open. -/
def taken (r : Registry) (id : Nat) (lines : Session → List (List Char)) : List Receipt :=
  match r.session? id with
  | some s =>
    if s.closed then [] else (Session.reached s.checkQuery (lines s)).map (.line id s.checkQuery)
  | none => []

lemma taken_of_open {r : Registry} {id : Nat} {s : Session} (hs : r.session? id = some s)
    (hopen : s.closed = false) (lines : Session → List (List Char)) :
    taken r id lines = (Session.reached s.checkQuery (lines s)).map (.line id s.checkQuery) := by
  simp [taken, hs, hopen]

lemma taken_of_not_isOpen {r : Registry} {id : Nat} (h : ¬Bridge.isOpen r id = true)
    (lines : Session → List (List Char)) : taken r id lines = [] := by
  rw [Bridge.isOpen] at h
  rw [taken]
  cases hs : r.session? id with
  | none => rfl
  | some s =>
    have hclosed : s.closed = true := by simpa [hs] using h
    simp [hclosed]

lemma Hearing.moves {id : Nat} {text : List Char} {r : Registry} {o : Outcome Registry Unit}
    (h : Hearing id text r o) :
    ∃ u, Moves u r (visible o.trace) (taken r id fun s => (s.lines.feed text).1) o.state := by
  cases h with
  | deaf hclosed ho =>
    rw [ho, taken_of_not_isOpen hclosed]
    exact ⟨"", .refl⟩
  | @heard s c es ds hs hc hopen hr hes htrace =>
    have hr₁ := revises_updateSession (u := s.uri) rfl hs hc fun _ =>
      s.heard ds (s.lines.feed text).2
    have halike := (hr₁.rebase hr).alike hr₁.session hr₁.child (.refl c) hr₁.find_self
    have hmoves := moves_hearsLines hes hs hopen (b := (s.lines.feed text).2)
      (LineBuffer.newline_notMem_rest _)
    refine ⟨s.uri, ?_⟩
    rw [taken_of_open hs hopen, htrace]
    simpa using hmoves.snoc (.idle halike)

/-- After the last line the document loses its session, and that is reported. -/
lemma Exiting.moves {id : Nat} {code : Option Int} {r : Registry} {o : Outcome Registry Unit}
    (h : Exiting id code r o) :
    ∃ u, Moves u r (visible o.trace) (taken r id fun s => s.lines.flush.1) o.state := by
  have hempty : '\n' ∉ ({} : LineBuffer).pending := List.not_mem_nil
  cases h with
  | deaf hclosed ho =>
    rw [ho, taken_of_not_isOpen hclosed]
    exact ⟨"", .refl⟩
  | @broken s c f hs hc hopen hpending hf hr _ htrace =>
    have hr₁ := revises_updateSession (u := s.uri) rfl hs hc fun _ => s.withLines {}
    have halike := (hr₁.rebase hr).alike hr₁.session hr₁.child (.refl c) hr₁.find_self
    have hflush : s.lines.flush.1 = [s.lines.pending] := by
      rw [LineBuffer.flush]
      simpa using hpending
    have hnone : s.HearsLines s.lines.flush.1 [] s.diagnostics := hflush ▸ .of_error hf []
    refine ⟨s.uri, ?_⟩
    rw [taken_of_open hs hopen, htrace]
    simpa using (moves_hearsLines hnone hs hopen hempty).snoc (.idle halike)
  | @lost s c es ds hs hc hopen _ hfind _ hr _ hes htrace =>
    have hr₁ := revises_updateSession hfind hs hc fun _ => s.heard ds {}
    have hretires := (hr₁.rebase hr).retires hr₁.session hr₁.child (.released c)
    have hmoves := (moves_hearsLines hes hs hopen hempty).snoc (.retired hr₁.find_self hretires)
    refine ⟨s.uri, ?_⟩
    rw [taken_of_open hs hopen, htrace]
    simpa using hmoves.report hr.find_self (Bridge.exitMessage code)
  | @cut s c f es ds hs hc hopen _ hfind _ hr _ hes htrace =>
    have hr₁ := revises_updateSession hfind hs hc fun _ => s.heard ds {}
    have hretires := (hr₁.rebase hr).retires hr₁.session hr₁.child (.shut c)
    refine ⟨s.uri, ?_⟩
    rw [taken_of_open hs hopen, htrace]
    simpa using (moves_hearsLines hes hs hopen hempty).snoc (.retired hr₁.find_self hretires)
  | @stray s c es ds hs hc hopen _ hr hes htrace =>
    have hr₁ := revises_updateSession (u := s.uri) rfl hs hc fun _ => s.heard ds {}
    have halike := (hr₁.rebase hr).alike hr₁.session hr₁.child (.refl c) hr₁.find_self
    refine ⟨s.uri, ?_⟩
    rw [taken_of_open hs hopen, htrace]
    simpa using (moves_hearsLines hes hs hopen hempty).snoc (.idle halike)

end Registry

end ProverLink
