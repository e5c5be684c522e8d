import ProverLink.Proofs.Concerns
import ProverLink.Proofs.LostLines
import ProverLink.Proofs.Mirrors
import ProverLink.Proofs.Transcripts

/-!
# Documents do not disturb each other

From a run over many documents the steps about one document are kept, and with them every shutdown
and what happens to the processes. The run of the kept steps gives and shows the same for this
document, and leaves its sessions and processes in the same states.
-/

namespace ProverLink

/-! ### Started processes -/

/-- The slot in which an effect starts a process. -/
def Effect.started? : Effect → Option Nat
  | .spawned i _ _ => some i
  | _ => none

/-- The slots in which processes were started. -/
def starts (trace : List Effect) : List Nat := trace.filterMap Effect.started?

lemma starts_append (xs ys : List Effect) : starts (xs ++ ys) = starts xs ++ starts ys :=
  List.filterMap_append

lemma starts_visible (trace : List Effect) : starts (visible trace) = starts trace := by
  rw [starts, starts, visible, List.filterMap_filter]
  congr
  funext e
  cases e <;> rfl

lemma startsIn_starts {ids : List Nat} {trace : List Effect} (h : ∀ i ∈ starts trace, i ∈ ids) :
    Registry.StartsIn ids trace := by
  intro i command directory hmem
  apply h
  exact List.mem_filterMap.2 ⟨_, hmem, rfl⟩

/-! ### Effects about others -/

section Others

variable {u v : String} {ids : List Nat} {i j k : Nat} {tr : List Effect}

lemma AllConcern.event {e : EditorEvent} (h : AllConcern u j tr) (he : e ∈ events tr) :
    e.concerns u true = true := by
  obtain ⟨e', he', hevent⟩ := List.mem_filterMap.1 he
  cases e' with
  | event e' =>
    cases hevent
    exact h _ he'
  | _ => cases hevent

lemma AllConcern.events_other (h : AllConcern v j tr) (hv : v ≠ u) :
    (events tr).filter (EditorEvent.concerns u false) = [] := by
  rw [List.filter_eq_nil_iff]
  intro e he
  rw [EditorEvent.concerns_of_ne (h.event he) hv]
  exact Bool.false_ne_true

lemma AllConcern.writes_other (h : AllConcern v j tr) (hj : j ≠ i) : writes i tr = [] := by
  rw [writes, List.filterMap_eq_nil_iff]
  intro e he
  cases e with
  | wrote j' line =>
    obtain rfl : j' = j := of_decide_eq_true (h _ he)
    rw [Effect.written?, if_neg hj]
  | _ => rfl

lemma events_map_renumber (f : Nat → Nat) (tr : List Effect) :
    events (tr.map (Effect.renumber f)) = events tr := by
  rw [events, List.filterMap_map, events]
  congr
  funext e
  cases e <;> rfl

/-- What was written to a process stays with it when the slots are numbered anew. -/
lemma writes_map_renumber (hk : ids[k]? = some i) (hplace : ids.idxOf i = k) (tr : List Effect) :
    writes k (tr.map (Effect.renumber ids.idxOf)) = writes i tr := by
  rw [writes, List.filterMap_map, writes]
  congr
  funext e
  cases e with
  | wrote j line =>
    have hj : ids.idxOf j = k ↔ j = i := by
      constructor
      · intro hj
        have hlt : ids.idxOf j < ids.length := by
          rw [hj]
          exact (List.getElem?_eq_some_iff.1 hk).1
        have hmem := List.getElem?_idxOf (List.idxOf_lt_length_iff.1 hlt)
        rw [hj, hk] at hmem
        exact (Option.some.inj hmem).symm
      · rintro rfl
        exact hplace
    simp [Effect.renumber, Effect.written?, hj]
  | _ => rfl

end Others

namespace Registry

section Opening

variable {u : String} {r : Registry} {id : Nat} {front : List Effect} {s s' : Session} {c : Child}
  {line : List Char} {o : Outcome Registry (Option Nat)}

lemma Refusing.length (h : Refusing u id front s c r o) :
    o.state.slots.length = r.slots.length := by
  cases h with
  | lost _ _ _ hr _ _ => exact hr.length
  | cut _ _ _ _ hr _ _ => exact hr.length
  | wild _ _ _ hr _ _ => exact hr.length

lemma Refusing.starts (h : Refusing u id front s c r o) (hfront : starts front = []) :
    starts (visible o.trace) = [] := by
  cases h with
  | lost _ _ _ _ _ htrace =>
    rw [htrace, starts_append, hfront]
    rfl
  | cut _ _ _ _ _ _ htrace => rwa [htrace]
  | wild _ _ _ _ _ htrace => rwa [htrace]

lemma Sending.length (h : Sending u id front s s' c line r o) :
    o.state.slots.length = r.slots.length := by
  cases h with
  | taken _ hr _ _ => exact hr.length
  | refused h => exact h.length

lemma Sending.starts (h : Sending u id front s s' c line r o) (hfront : starts front = []) :
    starts (visible o.trace) = [] := by
  cases h with
  | taken _ _ _ htrace =>
    rw [htrace, starts_append, hfront]
    rfl
  | refused h => exact h.starts hfront

/-- When a document is opened a process is started in the next slot, or nothing but the report of a
failure is seen. -/
lemma Opening.starts_cases {text : String} (h : Opening u text r o) :
    o.state.slots.length = r.slots.length + 1 ∧ starts (visible o.trace) = [r.slots.length] ∨
      o.state.slots.length = r.slots.length ∧ starts (visible o.trace) = [] ∧
        ∀ j, AllConcern u j (visible o.trace) := by
  cases h with
  | stuck _ _ _ _ _ _ _ _ hr _ htrace =>
    rw [htrace]
    exact .inr ⟨hr.length, rfl, allConcern_nil u⟩
  | unstarted message hv _ htrace =>
    rw [htrace]
    exact .inr ⟨hv.length, rfl, fun j => allConcern_report u j message⟩
  | failed _ hv _ htrace =>
    rw [htrace]
    exact .inr ⟨hv.length, rfl, allConcern_nil u⟩
  | pipeless _ _ _ hv hstate _ htrace =>
    rw [htrace, hstate]
    refine .inl ⟨?_, rfl⟩
    simp [extend, hv.length]
  | refused _ _ hv hseats ho _ hstate _ htrace =>
    rw [htrace, hstate, ho.length, hseats.length, hv.length]
    refine .inl ⟨rfl, ?_⟩
    exact congrArg (r.slots.length :: ·) (ho.starts rfl)
  | checked _ _ hv hseats _ _ hr _ ho hstate _ htrace =>
    rw [htrace, hstate, ho.length, hr.length, hseats.length, hv.length]
    refine .inl ⟨rfl, ?_⟩
    exact congrArg (r.slots.length :: ·) (ho.starts rfl)

end Opening

/-! ### What is left alone -/

/-- Nothing that belongs to a document has changed. Sessions that are new belong to others. -/
structure Spares (u : String) (ids : List Nat) (r q : Registry) : Prop where
  slots : ∀ i ∈ ids, q.slots[i]? = r.slots[i]?
  find : q.find? u = r.find? u
  plan : q.plan = r.plan
  uris : ∀ i s, q.session? i = some s →
    (∃ t, r.session? i = some t ∧ t.uri = s.uri) ∨ s.uri ≠ u ∧ i ∉ ids

namespace Spares

variable {u v : String} {ids : List Nat} {r q q' : Registry} {j : Nat} {front : List Effect}
  {s s' : Session} {c : Child} {line : List Char} {o : Outcome Registry (Option Nat)}

lemma refl (u : String) (ids : List Nat) (r : Registry) : Spares u ids r r := by
  refine ⟨fun _ _ => rfl, rfl, rfl, ?_⟩
  intro i s hs
  exact .inl ⟨s, hs, rfl⟩

lemma trans (h : Spares u ids r q) (h' : Spares u ids q q') : Spares u ids r q' := by
  refine ⟨?_, h'.find.trans h.find, h'.plan.trans h.plan, ?_⟩
  · intro i hi
    rw [h'.slots i hi, h.slots i hi]
  · intro i s hs
    rcases h'.uris i s hs with ⟨t, ht, huri⟩ | hother
    · rcases h.uris i t ht with ⟨t', ht', huri'⟩ | ⟨hu, hi⟩
      · exact .inl ⟨t', ht', huri'.trans huri⟩
      · exact .inr ⟨huri ▸ hu, hi⟩
    · exact .inr hother

/-- A slot of another document changes. -/
lemma revises {found : Option Nat} (h : Revises v j found s c r q) (hv : v ≠ u) (hj : j ∉ ids)
    (hs : s.uri = v) : Spares u ids r q := by
  refine ⟨?_, ?_, h.plan, ?_⟩
  · intro i hi
    apply h.others
    rintro rfl
    exact hj hi
  · rw [h.find, if_neg (Ne.symm hv)]
  · intro i t ht
    rw [h.session_eq] at ht
    split at ht
    · rename_i hi
      subst hi
      cases ht
      exact .inr ⟨hs ▸ hv, hj⟩
    · exact .inl ⟨t, ht, rfl⟩

lemma refusing (h : Refusing v j front s c r o) (hv : v ≠ u) (hj : j ∉ ids) (hs : s.uri = v) :
    Spares u ids r o.state := by
  cases h with
  | lost _ _ _ hr _ _ => exact .revises hr hv hj hs
  | cut _ _ _ _ hr _ _ => exact .revises hr hv hj hs
  | wild _ _ _ hr _ _ => exact .revises hr hv hj hs

lemma sending (h : Sending v j front s s' c line r o) (hv : v ≠ u) (hj : j ∉ ids) (hs : s.uri = v)
    (hs' : s'.uri = v) : Spares u ids r o.state := by
  cases h with
  | taken _ hr _ _ => exact .revises hr hv hj hs'
  | refused h => exact .refusing h hv hj hs

lemma vacates (h : Vacates v r q) (hserves : r.Serves) (hv : v ≠ u)
    (hfound : ∀ j, r.find? v = some j → j ∉ ids) : Spares u ids r q := by
  cases h with
  | free _ => exact .refl u ids r
  | left id s c hfind hs hc _ =>
    obtain ⟨s', hs', huri, -⟩ := hserves v id hfind
    rw [hs, Option.some.injEq] at hs'
    subst hs'
    exact .revises (revises_release hs hc v) hv (hfound id hfind) huri

/-- A process is started in a slot that is not one of those of the document. -/
lemma extend (r : Registry) (hnew : r.slots.length ∉ ids) : Spares u ids r r.extend := by
  refine ⟨?_, rfl, rfl, ?_⟩
  · intro i hi
    rw [getElem?_extend, if_neg]
    rintro rfl
    exact hnew hi
  · intro i s hs
    rw [session?_extend] at hs
    exact .inl ⟨s, hs, rfl⟩

lemma seats (h : Seats v r q) (hv : v ≠ u) (hnew : r.slots.length ∉ ids) : Spares u ids r q := by
  refine ⟨?_, ?_, h.plan, ?_⟩
  · intro i hi
    apply h.others
    rintro rfl
    exact hnew hi
  · rw [h.find, if_neg (Ne.symm hv)]
  · intro i s hs
    rw [h.session_eq] at hs
    split at hs
    · rename_i hi
      subst hi
      cases hs
      exact .inr ⟨hv, hnew⟩
    · exact .inl ⟨s, hs, rfl⟩

/-- Another document is opened. -/
lemma opening {text : String} (h : Opening v text r o) (hserves : r.Serves) (hv : v ≠ u)
    (hfound : ∀ j, r.find? v = some j → j ∉ ids)
    (hnew : r.slots.length < o.state.slots.length → r.slots.length ∉ ids) :
    Spares u ids r o.state := by
  have hfresh : starts (visible o.trace) ≠ [] → r.slots.length ∉ ids := by
    intro hstarts
    rcases h.starts_cases with ⟨hlength, -⟩ | ⟨-, hnone, -⟩
    · apply hnew
      rw [hlength]
      exact Nat.lt_succ_self _
    · exact absurd hnone hstarts
  cases h with
  | stuck id s c _ hfind hs _ _ hr _ _ =>
    obtain ⟨s', hs', huri, -⟩ := hserves v id hfind
    rw [hs, Option.some.injEq] at hs'
    subst hs'
    exact .revises hr hv (hfound id hfind) huri
  | unstarted _ hvacates _ _ => exact .vacates hvacates hserves hv hfound
  | failed _ hvacates _ _ => exact .vacates hvacates hserves hv hfound
  | pipeless _ _ _ hvacates hstate _ htrace =>
    replace hfresh := hfresh (by simp [htrace, starts, Effect.started?])
    rw [hstate]
    refine (vacates hvacates hserves hv hfound).trans (.extend _ ?_)
    rwa [hvacates.length]
  | refused _ _ hvacates hseats ho _ hstate _ htrace =>
    replace hfresh := hfresh (by simp [htrace, starts, Effect.started?])
    rw [hstate]
    refine (vacates hvacates hserves hv hfound).trans ((seats hseats hv ?_).trans ?_)
    · rwa [hvacates.length]
    · exact refusing ho hv hfresh rfl
  | checked _ _ hvacates hseats _ _ hr _ ho hstate _ htrace =>
    replace hfresh := hfresh (by simp [htrace, starts, Effect.started?])
    rw [hstate]
    refine (vacates hvacates hserves hv hfound).trans ((seats hseats hv ?_).trans ?_)
    · rwa [hvacates.length]
    · exact (revises hr hv hfresh rfl).trans (sending ho hv hfresh rfl rfl)

end Spares

/-- What happens to others does not matter to a registry that serves the document only. -/
lemma Mirrors.spares {u : String} {ids : List Nat} {r r' q : Registry} (h : Mirrors u ids r r')
    (hspares : Spares u ids r q) (hconfig : q.config = r.config) : Mirrors u ids q r' := by
  refine ⟨h.increasing, ?_, ?_, ?_, ?_, h.alone, ?_⟩
  · rw [h.config, hconfig]
  · rw [h.plan, hspares.plan]
  · intro k
    rw [h.slots]
    cases hk : ids[k]? with
    | none => rfl
    | some i =>
      rw [Option.bind_some, Option.bind_some, hspares.slots i (List.mem_of_getElem? hk)]
  · rw [hspares.find]
    exact h.served
  · intro i s hs
    rcases hspares.uris i s hs with ⟨t, ht, huri⟩ | ⟨hu, hi⟩
    · rw [← huri]
      exact h.owner i t ht
    · exact iff_of_false hu hi

end Registry

namespace Bridge

open Registry

/-! ### Keeping the steps about a document -/

/-- Whether a step is kept for a document whose processes are in some slots. -/
def Step.IsKept (u : String) (ids : List Nat) : Step → Prop
  | .openDocument v _ _ => v = u
  | .changeDocument v _ => v = u
  | .closeDocument v => v = u
  | .output i _ => i ∈ ids
  | .exit i _ => i ∈ ids
  | .reap i => i ∈ ids
  | .shutdown => True
  | .plan _ => True
  | .world _ => True

instance Step.decidableIsKept (u : String) (ids : List Nat) :
    (st : Step) → Decidable (st.IsKept u ids)
  | .openDocument v _ _ => inferInstanceAs (Decidable (v = u))
  | .changeDocument v _ => inferInstanceAs (Decidable (v = u))
  | .closeDocument v => inferInstanceAs (Decidable (v = u))
  | .output i _ => inferInstanceAs (Decidable (i ∈ ids))
  | .exit i _ => inferInstanceAs (Decidable (i ∈ ids))
  | .reap i => inferInstanceAs (Decidable (i ∈ ids))
  | .shutdown => .isTrue trivial
  | .plan _ => .isTrue trivial
  | .world _ => .isTrue trivial

/-- A step with the numbers that the slots have in the run of one document. -/
def Step.place (ids : List Nat) : Step → Step
  | .output i text => .output (ids.idxOf i) text
  | .exit i code => .exit (ids.idxOf i) code
  | .reap i => .reap (ids.idxOf i)
  | .world change => .world fun k => change (slotAt ids k)
  | st => st

/-- The run of one document by itself. -/
def kept (u : String) (ids : List Nat) (steps : List Step) : List Step :=
  (steps.filter (Step.IsKept u ids ·)).map (Step.place ids)

/-- What a step gives back, with the number that the slot has in the run of the document. -/
def Step.translate (ids : List Nat) : Step → Reply → Reply
  | .openDocument _ _ _, .number n => .number (n.map ids.idxOf)
  | _, reply => reply

/-- The slots in which processes are started when a document is opened. -/
def slotsOf [Limits] (u : String) : List Step → Registry → List Nat
  | [], _ => []
  | st :: rest, r =>
    (if st.Opens u then starts (st.act.run r).trace else []) ++ slotsOf u rest (st.act.run r).state

/-- What the kept steps give and show in the run they are taken from. -/
def answers [Limits] (u : String) (ids : List Nat) (steps : List Step) (r : Registry) :
    List (Except Fault Reply × List Effect) :=
  ((steps.zip (outcomes steps r)).filter fun p => p.1.IsKept u ids).map fun p =>
    (p.2.result.map (p.1.translate ids), (visible p.2.trace).map (Effect.renumber ids.idxOf))

/-- What the editor is told about a document. -/
def toldAbout [Limits] (u : String) : List Step → Registry → List EditorEvent
  | [], _ => []
  | st :: rest, r =>
    (events (st.act.run r).trace).filter (EditorEvent.concerns u (st.document? r = some u))
      ++ toldAbout u rest (st.act.run r).state

section Steps

variable {u : String} {ids : List Nat} {r r' : Registry} {st st' : Step}

lemma Step.IsClean.place (hst : st.IsClean) : (st.place ids).IsClean := by
  cases st with
  | world change =>
    intro k c hc
    exact hst (slotAt ids k) c hc
  | _ => trivial

lemma isKept_of_opens (ids : List Nat) (hopens : st.Opens u) : st.IsKept u ids := by
  cases st with
  | openDocument v text path => exact hopens
  | _ => exact hopens.elim

/-- The steps about a document are kept for it. -/
lemma isKept_iff_of_document? {v : String} (h : Mirrors u ids r r') (hv : st.document? r = some v) :
    st.IsKept u ids ↔ v = u := by
  cases st with
  | openDocument w text path =>
    cases hv
    rfl
  | changeDocument w text =>
    cases hv
    rfl
  | closeDocument w =>
    cases hv
    rfl
  | output i text =>
    obtain ⟨s, hs, rfl⟩ := Option.map_eq_some_iff.1 hv
    exact (h.owner i s hs).symm
  | exit i code =>
    obtain ⟨s, hs, rfl⟩ := Option.map_eq_some_iff.1 hv
    exact (h.owner i s hs).symm
  | _ => cases hv

/-- A session that serves another document is not in one of the slots. -/
lemma notMem_of_find? {v : String} (h : Mirrors u ids r r') (hserves : r.Serves) (hv : v ≠ u)
    {j : Nat} (hfind : r.find? v = some j) : j ∉ ids := by
  intro hj
  obtain ⟨s, hs, huri, -⟩ := hserves v j hfind
  exact hv (huri ▸ (h.owner j s hs).2 hj)

lemma spares_changeDocument {v : String} (h : Mirrors u ids r r') (hserves : r.Serves) (hv : v ≠ u)
    (text : String) : Spares u ids r ((changeDocument v text).run r).state := by
  cases hfind : r.find? v with
  | none =>
    obtain ⟨notice, hrun⟩ := run_changeDocument_of_none hfind text
    rw [hrun]
    exact .refl u ids r
  | some j =>
    obtain ⟨s, hs, huri, -⟩ := hserves v j hfind
    obtain ⟨c, hc⟩ := exists_child_of_session hs
    have hsend := sending_changeDocument hfind hs hc huri (Query.toLine_fullBuffer text _)
    exact .sending hsend hv (notMem_of_find? h hserves hv hfind) huri huri

lemma spares_closeDocument {v : String} (h : Mirrors u ids r r') (hserves : r.Serves)
    (hv : v ≠ u) : Spares u ids r ((closeDocument v).run r).state := by
  rw [closeDocument, Act.run_log_bind]
  rcases close_cases v hserves with
    ⟨_, _, _, -, hvacates, hrun⟩ | ⟨j, s, _, _, _, hfind, hs, -, -, hrevises, hrun⟩
  · rw [hrun]
    exact .vacates hvacates hserves hv fun _ => notMem_of_find? h hserves hv
  · rw [hrun]
    obtain ⟨s', hs', huri, -⟩ := hserves v j hfind
    rw [hs, Option.some.injEq] at hs'
    subst hs'
    exact .revises hrevises hv (notMem_of_find? h hserves hv hfind) huri

lemma spares_reap {j : Nat} (hj : j ∉ ids) : Spares u ids r ((reap j).run r).state := by
  refine ⟨?_, ?_, ?_, ?_⟩
  · intro i hi
    rw [state_reap, getElem?_updateSlot, if_neg]
    rintro rfl
    exact hj hi
  · rw [state_reap]
    rfl
  · rw [state_reap]
    rfl
  · intro i s hs
    rw [(quiet_reap j r).alike.session] at hs
    exact .inl ⟨s, hs, rfl⟩

variable [Limits]

/-- A step that is kept is done in the same way by itself. -/
lemma mirrored_step (h : Mirrors u ids r r') (hr : r.Orderly) (hr' : r'.Orderly)
    (hkept : st.IsKept u ids) (hstarts : st.Opens u → StartsIn ids (st.act.run r).trace) :
    Mirrored u ids (st.translate ids) (st.act.run r) ((st.place ids).act.run r') := by
  cases st with
  | openDocument v text path =>
    obtain rfl : v = u := hkept
    replace hstarts := hstarts rfl
    cases path with
    | none =>
      rw [Step.act, Act.run_map] at hstarts
      exact (mirrored_openUri h text hstarts).map fun _ => rfl
    | some path =>
      rw [Step.act, Act.run_map] at hstarts
      exact (mirrored_openDocument h text path hstarts).map fun _ => rfl
  | changeDocument v text =>
    obtain rfl : v = u := hkept
    exact (mirrored_changeDocument h text).map fun _ => rfl
  | closeDocument v =>
    obtain rfl : v = u := hkept
    exact (mirrored_closeDocument h).map fun _ => rfl
  | shutdown => exact (mirrored_shutdown h hr hr').map fun _ => rfl
  | output i text =>
    exact (mirrored_handleOutput h (List.getElem?_idxOf hkept) text).map fun _ => rfl
  | exit i code =>
    exact (mirrored_handleExit h (List.getElem?_idxOf hkept) code).map fun _ => rfl
  | reap i => exact (mirrored_reap h (List.getElem?_idxOf hkept)).map fun _ => rfl
  | plan p => exact ⟨rfl, { h with plan := rfl }, rfl⟩
  | world change => exact ⟨rfl, h.mapChildren change, rfl⟩

/-- All that the editor is told in a step that is kept is about the document. -/
lemma events_of_kept (h : Mirrors u ids r r') (hr : r.Orderly) (hkept : st.IsKept u ids) :
    (events (st.act.run r).trace).filter (EditorEvent.concerns u (st.document? r = some u))
      = events (st.act.run r).trace := by
  rw [← events_visible]
  cases speaks_step hr.serves st with
  | silent hseen =>
    rw [hseen]
    rfl
  | about v j hv _ hall =>
    obtain rfl : v = u := (isKept_iff_of_document? h hv).1 hkept
    rw [decide_eq_true hv, List.filter_eq_self]
    intro e he
    exact hall.event he

lemma spares_handleOutput {j : Nat} (h : Mirrors u ids r r') (hj : j ∉ ids) (text : List Char) :
    Spares u ids r ((handleOutput j text).run r).state := by
  cases hearing_handleOutput j text r with
  | deaf _ ho =>
    rw [ho]
    exact .refl u ids r
  | heard _ _ hs _ _ hrevises _ _ => exact .revises hrevises (mt (h.owner j _ hs).1 hj) hj rfl

lemma spares_handleExit {j : Nat} (h : Mirrors u ids r r') (hj : j ∉ ids) (code : Option Int) :
    Spares u ids r ((handleExit j code).run r).state := by
  cases exiting_handleExit j code r with
  | deaf _ ho =>
    rw [ho]
    exact .refl u ids r
  | broken _ hs _ _ _ _ hrevises _ _ => exact .revises hrevises (mt (h.owner j _ hs).1 hj) hj rfl
  | lost _ _ hs _ _ _ _ _ hrevises _ _ _ =>
    exact .revises hrevises (mt (h.owner j _ hs).1 hj) hj rfl
  | cut _ _ _ hs _ _ _ _ _ hrevises _ _ _ =>
    exact .revises hrevises (mt (h.owner j _ hs).1 hj) hj rfl
  | stray _ _ hs _ _ _ hrevises _ _ => exact .revises hrevises (mt (h.owner j _ hs).1 hj) hj rfl

/-- Nothing that belongs to a document changes in a step that is not kept for it. -/
lemma spares_step (h : Mirrors u ids r r') (hserves : r.Serves) (hkept : ¬st.IsKept u ids)
    (hnew : r.slots.length < (st.act.run r).state.slots.length → r.slots.length ∉ ids) :
    Spares u ids r (st.act.run r).state := by
  cases st with
  | openDocument v text path =>
    rcases opening_openStep v text path hserves with ⟨o, ho, hrun⟩ | ⟨f, hrun⟩
    · rw [hrun] at hnew ⊢
      exact .opening ho hserves hkept (fun _ => notMem_of_find? h hserves hkept) hnew
    · rw [hrun]
      exact .refl u ids r
  | changeDocument v text =>
    rw [Step.act, Act.run_map]
    exact spares_changeDocument h hserves hkept text
  | closeDocument v =>
    rw [Step.act, Act.run_map]
    exact spares_closeDocument h hserves hkept
  | output j text =>
    rw [Step.act, Act.run_map]
    exact spares_handleOutput h hkept text
  | exit j code =>
    rw [Step.act, Act.run_map]
    exact spares_handleExit h hkept code
  | reap j =>
    rw [Step.act, Act.run_map]
    exact spares_reap hkept
  | _ => exact absurd trivial hkept

/-- Whether a process is started when a document is opened. -/
lemma starts_cases_of_opens (hserves : r.Serves) (hopens : st.Opens u) :
    (st.act.run r).state.slots.length = r.slots.length + 1 ∧
        starts (st.act.run r).trace = [r.slots.length] ∨
      (st.act.run r).state.slots.length = r.slots.length ∧ starts (st.act.run r).trace = [] ∧
        ∀ j, AllConcern u j (visible (st.act.run r).trace) := by
  cases st with
  | openDocument v text path =>
    obtain rfl : v = u := hopens
    rcases opening_openStep v text path hserves with ⟨o, ho, hrun⟩ | ⟨f, hrun⟩
    · rw [hrun, ← starts_visible]
      exact ho.starts_cases
    · rw [hrun]
      exact .inr ⟨rfl, rfl, allConcern_nil v⟩
  | _ => exact hopens.elim

/-- In a step that is not kept for a document nothing is told about it, and nothing is written to
its processes. -/
lemma silent_of_not_kept (h : Mirrors u ids r r') (hr : r.Orderly) (hkept : ¬st.IsKept u ids)
    (hnew : r.slots.length < (st.act.run r).state.slots.length → r.slots.length ∉ ids) :
    (events (st.act.run r).trace).filter (EditorEvent.concerns u (st.document? r = some u)) = [] ∧
      ∀ i ∈ ids, writes i (st.act.run r).trace = [] := by
  rw [← events_visible]
  simp only [← writes_visible _ (st.act.run r).trace]
  cases speaks_step hr.serves st with
  | silent hseen =>
    rw [hseen]
    exact ⟨rfl, fun _ _ => rfl⟩
  | about v j hdocument hj hall =>
    have hv : v ≠ u := by
      intro hv
      exact hkept ((isKept_iff_of_document? h hdocument).2 hv)
    have hother : st.document? r ≠ some u := by
      rw [hdocument]
      simpa using hv
    rw [decide_eq_false hother]
    refine ⟨hall.events_other hv, ?_⟩
    intro i hi
    rcases hj with ⟨s, hs, rfl⟩ | ⟨hopens, rfl⟩
    · apply hall.writes_other
      rintro rfl
      exact hv ((h.owner j s hs).2 hi)
    · -- without a process nothing is written at all, so any other slot will do
      rcases starts_cases_of_opens hr.serves hopens with ⟨hlength, -⟩ | ⟨-, -, hall⟩
      · apply hall.writes_other
        rintro rfl
        refine hnew ?_ hi
        rw [hlength]
        exact Nat.lt_succ_self _
      · exact (hall (i + 1)).writes_other (Nat.succ_ne_self i)

end Steps

/-! ### Runs -/

section Runs

variable {u : String} {ids : List Nat} {r r' : Registry} {st : Step} {steps own : List Step}

lemma mirrors_start (u : String) (config : Config) (hids : ids.Pairwise (· < ·)) :
    Mirrors u ids { config } { config } := by
  refine ⟨hids, rfl, rfl, ?_, .none, fun _ _ => rfl, ?_⟩
  · intro k
    cases ids[k]? <;> rfl
  · intro i s hs
    cases hs

/-- Once all its processes are started, the run of the document has no other slots. -/
lemma length_of_mirrors (h : Mirrors u ids r r') (hseen : ∀ i ∈ ids, i < r.slots.length) :
    r'.slots.length = ids.length := by
  apply Nat.le_antisymm
  · rw [← List.getElem?_eq_none_iff, h.slots, List.getElem?_eq_none (Nat.le_refl _)]
    rfl
  · rw [← Nat.not_lt]
    intro hlt
    have hslot := h.slot (List.getElem?_eq_getElem hlt)
    rw [List.getElem?_eq_none (Nat.le_refl _), eq_comm, List.getElem?_eq_none_iff] at hslot
    exact Nat.not_lt.2 hslot (hseen _ (List.getElem_mem hlt))

variable [Limits]

lemma length_le_of_step (hst : st.IsClean) (r : Registry) :
    r.slots.length ≤ (st.act.run r).state.slots.length :=
  keeps_step (lasting_length r.slots.length) hst r (Nat.le_refl _)

/-- A process of a document is started now or later. -/
lemma mem_slotsOf_cons {i : Nat} (hserves : r.Serves) (hi : i ∈ slotsOf u (st :: steps) r) :
    i = r.slots.length ∧ (st.act.run r).state.slots.length = r.slots.length + 1 ∨
      i ∈ slotsOf u steps (st.act.run r).state := by
  rcases List.mem_append.1 hi with hi | hi
  · split at hi
    · rename_i hopens
      rcases starts_cases_of_opens hserves hopens with ⟨hlength, hstarts⟩ | ⟨-, hstarts, -⟩
      · rw [hstarts] at hi
        exact .inl ⟨List.mem_singleton.1 hi, hlength⟩
      · rw [hstarts] at hi
        cases hi
    · cases hi
  · exact .inr hi

lemma le_of_mem_slotsOf (hr : r.Orderly) (hsteps : ∀ st ∈ steps, st.IsClean) {i : Nat}
    (hi : i ∈ slotsOf u steps r) : r.slots.length ≤ i := by
  induction steps generalizing r with
  | nil => cases hi
  | cons st rest ih =>
    obtain ⟨hst, hrest⟩ := List.forall_mem_cons.1 hsteps
    rcases mem_slotsOf_cons hr.serves hi with ⟨rfl, -⟩ | hi
    · exact Nat.le_refl _
    · exact Nat.le_trans (length_le_of_step hst r) (ih (hr.step hst) hrest hi)

/-- The processes of a document are started in one slot after the other. -/
lemma increasing_slotsOf (hr : r.Orderly) (hsteps : ∀ st ∈ steps, st.IsClean) :
    (slotsOf u steps r).Pairwise (· < ·) := by
  induction steps generalizing r with
  | nil => exact .nil
  | cons st rest ih =>
    obtain ⟨hst, hrest⟩ := List.forall_mem_cons.1 hsteps
    have hlater := ih (hr.step hst) hrest
    rw [slotsOf]
    split
    · rename_i hopens
      rcases starts_cases_of_opens hr.serves hopens with ⟨hlength, hstarts⟩ | ⟨-, hstarts, -⟩
      · rw [hstarts, List.singleton_append, List.pairwise_cons]
        refine ⟨?_, hlater⟩
        intro i hi
        have hle := le_of_mem_slotsOf (hr.step hst) hrest hi
        rwa [hlength] at hle
      · rwa [hstarts]
    · exact hlater

/-- A run that follows another as far as one document is concerned. -/
structure Follows (u : String) (ids : List Nat) (steps own : List Step) (r r' : Registry) :
    Prop where
  state : Mirrors u ids (after steps r) (after own r')
  seen : ∀ i ∈ ids, i < (after steps r).slots.length
  answers : (outcomes own r').map (fun o => (o.result, visible o.trace)) = answers u ids steps r
  told : events (trace own r') = toldAbout u steps r
  written : ∀ k i, ids[k]? = some i → writes k (trace own r') = writes i (trace steps r)

lemma trace_cons (st : Step) (rest : List Step) (r : Registry) :
    trace (st :: rest) r = (st.act.run r).trace ++ trace rest (st.act.run r).state := rfl

/-- A step is kept. -/
lemma Follows.keep (hkept : st.IsKept u ids) (hr : r.Orderly) (h : Mirrors u ids r r')
    (hstep : Mirrored u ids (st.translate ids) (st.act.run r) ((st.place ids).act.run r'))
    (hrest : Follows u ids steps own (st.act.run r).state ((st.place ids).act.run r').state) :
    Follows u ids (st :: steps) (st.place ids :: own) r r' := by
  refine ⟨hrest.state, hrest.seen, ?_, ?_, ?_⟩
  · simp only [outcomes, List.map_cons, Bridge.answers, List.zip_cons_cons]
    rw [List.filter_cons_of_pos (by simpa using hkept), List.map_cons, hrest.answers, hstep.result,
      hstep.trace]
    rfl
  · rw [trace_cons, events_append, hrest.told, toldAbout, events_of_kept h hr hkept,
      ← events_visible, hstep.trace, events_map_renumber, events_visible]
  · intro k i hk
    rw [trace_cons, trace_cons, writes_append, writes_append, hrest.written k i hk,
      ← writes_visible, hstep.trace, writes_map_renumber hk (h.idxOf_eq hk), writes_visible]

/-- A step is not kept. -/
lemma Follows.drop (hkept : ¬st.IsKept u ids) (hr : r.Orderly) (h : Mirrors u ids r r')
    (hnew : r.slots.length < (st.act.run r).state.slots.length → r.slots.length ∉ ids)
    (hrest : Follows u ids steps own (st.act.run r).state r') :
    Follows u ids (st :: steps) own r r' := by
  obtain ⟨hevents, hwrites⟩ := silent_of_not_kept h hr hkept hnew
  refine ⟨hrest.state, hrest.seen, ?_, ?_, ?_⟩
  · simp only [outcomes, Bridge.answers, List.zip_cons_cons]
    rw [List.filter_cons_of_neg (by simpa using hkept), hrest.answers]
    rfl
  · rw [hrest.told, toldAbout, hevents, List.nil_append]
  · intro k i hk
    rw [trace_cons, writes_append, hwrites i (List.mem_of_getElem? hk), hrest.written k i hk,
      List.nil_append]

/-- The slots of a document are there already, or its processes are started later. -/
def Foresees (u : String) (ids : List Nat) (steps : List Step) (r : Registry) : Prop :=
  ∀ i ∈ ids, i < r.slots.length ∨ i ∈ slotsOf u steps r

lemma Foresees.step (h : Foresees u ids (st :: steps) r) (hserves : r.Serves) (hst : st.IsClean) :
    Foresees u ids steps (st.act.run r).state := by
  intro i hi
  rcases h i hi with hlt | hi
  · exact .inl (Nat.lt_of_lt_of_le hlt (length_le_of_step hst r))
  · rcases mem_slotsOf_cons hserves hi with ⟨rfl, hlength⟩ | hi
    · rw [hlength]
      exact .inl (Nat.lt_succ_self _)
    · exact .inr hi

/-- A process that another document gets is not one that the document gets later. -/
lemma Foresees.notMem (h : Foresees u ids (st :: steps) r) (hr : r.Orderly)
    (hsteps : ∀ st' ∈ st :: steps, st'.IsClean) (hkept : ¬st.IsKept u ids)
    (hlt : r.slots.length < (st.act.run r).state.slots.length) : r.slots.length ∉ ids := by
  intro hmem
  obtain ⟨hst, hrest⟩ := List.forall_mem_cons.1 hsteps
  have hlater := (h _ hmem).resolve_left (Nat.lt_irrefl _)
  rw [slotsOf, if_neg (mt (isKept_of_opens ids) hkept)] at hlater
  exact Nat.not_le.2 hlt (le_of_mem_slotsOf (hr.step hst) hrest hlater)

/-- The kept steps follow the run that they are taken from. -/
lemma follows_kept (h : Mirrors u ids r r') (hr : r.Orderly) (hr' : r'.Orderly)
    (hsteps : ∀ st ∈ steps, st.IsClean) (hown : ∀ i ∈ slotsOf u steps r, i ∈ ids)
    (hforesees : Foresees u ids steps r) : Follows u ids steps (kept u ids steps) r r' := by
  -- `ids` are the slots of the whole run, so each is there already or still to come
  induction steps generalizing r r' with
  | nil =>
    refine ⟨h, ?_, rfl, rfl, fun _ _ _ => rfl⟩
    intro i hi
    exact (hforesees i hi).resolve_right List.not_mem_nil
  | cons st rest ih =>
    obtain ⟨hst, hrest⟩ := List.forall_mem_cons.1 hsteps
    have hlater : ∀ i ∈ slotsOf u rest (st.act.run r).state, i ∈ ids := by
      intro i hi
      exact hown i (List.mem_append_right _ hi)
    have hforesees' := hforesees.step hr.serves hst
    by_cases hkept : st.IsKept u ids
    · have hstarts : st.Opens u → StartsIn ids (st.act.run r).trace := by
        intro hopens
        apply startsIn_starts
        intro i hi
        apply hown
        rw [slotsOf, if_pos hopens]
        exact List.mem_append_left _ hi
      have hstep := mirrored_step h hr hr' hkept hstarts
      rw [kept, List.filter_cons_of_pos (by simpa using hkept), List.map_cons]
      exact .keep hkept hr h hstep
        (ih hstep.state (hr.step hst) (hr'.step hst.place) hrest hlater hforesees')
    · have hnew := hforesees.notMem hr hsteps hkept
      have hspares := spares_step h hr.serves hkept hnew
      have hconfig := keeps_step (lasting_config r.config) hst r rfl
      rw [kept, List.filter_cons_of_neg (by simpa using hkept)]
      exact .drop hkept hr h hnew
        (ih (h.spares hspares hconfig) (hr.step hst) hr' hrest hlater hforesees')

/-- If every pipe can be closed, documents do not disturb each other. The steps about a document,
with every shutdown and all that happens to its processes, give and show by themselves, step for
step, what they give and show in the whole run. In this the editor is told all that it is told about
the document, each process of the document takes the same bytes, and the sessions and the processes
of the document end in the same states. -/
theorem documents_are_isolated (config : Config) (u : String) (steps : List Step)
    (hsteps : ∀ st ∈ steps, st.IsClean) :
    let r : Registry := { config }
    let ids := slotsOf u steps r
    let own := kept u ids steps
    (∀ i s, (after steps r).session? i = some s → (s.uri = u ↔ i ∈ ids)) ∧
      (outcomes own r).map (fun o => (o.result, visible o.trace)) = answers u ids steps r ∧
      events (trace own r) = toldAbout u steps r ∧
      (∀ k i, ids[k]? = some i →
        stdinBytes k (trace own r) = stdinBytes i (trace steps r) ∧
        (after own r).slots[k]? = (after steps r).slots[i]?) ∧
      (after own r).slots.length = ids.length ∧
      (after own r).find? u = ((after steps r).find? u).map ids.idxOf := by
  intro r ids own
  have hr := orderly_start config
  have hfollows : Follows u ids steps own r r :=
    follows_kept (mirrors_start u config (increasing_slotsOf hr hsteps)) hr hr hsteps
      (fun _ hi => hi) fun _ hi => .inr hi
  refine ⟨hfollows.state.owner, hfollows.answers, hfollows.told, ?_, ?_, ?_⟩
  · intro k i hk
    exact ⟨by rw [stdinBytes, hfollows.written k i hk, stdinBytes], hfollows.state.slot hk⟩
  · exact length_of_mirrors hfollows.state hfollows.seen
  · rcases hfollows.state.find_cases with ⟨hnone, hnone'⟩ | ⟨k, i, hk, hfind, hfind'⟩
    · rw [hnone, hnone']
      rfl
    · rw [hfind, hfind', Option.map_some, hfollows.state.idxOf_eq hk]

end Runs

/-- One document loses its session to a broken pipe while another is checked, opened again and, in
the end, closed by a shutdown. -/
def crossedDocuments : List Step :=
  [.openDocument "a" "x" (some {}),
   .openDocument "b" "y" (some {}),
   .world fun i c =>
     if i = 0 then { c with stdin := { c.stdin with writeError := some (.value "closed") } } else c,
   .changeDocument "a" "z",
   .output 1 (Session.fragmentReport '1' ++ ['\n']),
   .openDocument "b" "w" (some {}),
   .exit 1 none,
   .exit 0 (some 1),
   .shutdown]

theorem documents_are_isolated_in_crossedDocuments :
    let r : Registry := { config := {} }
    let own := kept "b" [1, 2] crossedDocuments
    (∀ st ∈ crossedDocuments, st.IsClean) ∧ slotsOf "b" crossedDocuments r = [1, 2] ∧
      own.length = 6 ∧ (events (trace own r)).length = 5 ∧
      events (trace own r) = toldAbout "b" crossedDocuments r ∧
      stdinBytes 1 (trace own r) = stdinBytes 2 (trace crossedDocuments r) := by
  intro r own
  have hclean : ∀ st ∈ crossedDocuments, st.IsClean := by
    simp only [crossedDocuments, List.forall_mem_cons, List.not_mem_nil, false_implies,
      implies_true, and_true]
    refine ⟨trivial, trivial, ?_, trivial, trivial, trivial, trivial, trivial, trivial⟩
    intro i c hc
    dsimp only
    split <;> exact hc
  have hids : slotsOf "b" crossedDocuments r = [1, 2] := by decide +kernel
  obtain ⟨-, -, htold, hslots, -⟩ := documents_are_isolated {} "b" crossedDocuments hclean
  rw [hids] at htold hslots
  exact ⟨hclean, hids, by decide +kernel, by decide +kernel, htold, (hslots 1 2 rfl).1⟩

end Bridge

end ProverLink
