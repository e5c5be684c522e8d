import ProverLink.Proofs.Reports
import ProverLink.Proofs.Upkeep

/-!
# One document by itself

A registry that serves many documents is compared with one that serves a single document. The slots
of the second are those of the first in which the processes of this document were started. What is
done for the document in the one is done in the other, but for the numbers of the slots.
-/

namespace ProverLink

/-- The slot that stands at a place of a list of slots. -/
def slotAt (ids : List Nat) (k : Nat) : Nat := ids[k]?.getD 0

lemma slotAt_eq {ids : List Nat} {k i : Nat} (h : ids[k]? = some i) : slotAt ids k = i := by
  simp [slotAt, h]

/-- An effect with other numbers for the slots. -/
def Effect.renumber (f : Nat → Nat) : Effect → Effect
  | .wrote k line => .wrote (f k) line
  | .spawned k command directory => .spawned (f k) command directory
  | e => e

lemma map_renumber_event (f : Nat → Nat) (es : List EditorEvent) :
    (es.map .event).map (Effect.renumber f) = es.map .event := by
  rw [List.map_map]
  rfl

namespace Registry

/-- What a registry has in common with one that serves a single document. The processes of the
document were started in the slots `ids`, one after the other. -/
structure Mirrors (u : String) (ids : List Nat) (r r' : Registry) : Prop where
  increasing : ids.Pairwise (· < ·)
  config : r'.config = r.config
  plan : r'.plan = r.plan
  slots : ∀ k : Nat, r'.slots[k]? = ids[k]?.bind (r.slots[·]?)
  served : Option.Rel (fun (k i : Nat) => ids[k]? = some i) (r'.find? u) (r.find? u)
  alone : ∀ v, v ≠ u → r'.find? v = none
  owner : ∀ i s, r.session? i = some s → (s.uri = u ↔ i ∈ ids)

/-- Two acts end in the same way, but for the numbers of the slots. -/
structure Mirrored {α β : Type} (u : String) (ids : List Nat) (g : α → β)
    (o : Outcome Registry α) (o' : Outcome Registry β) : Prop where
  result : o'.result = o.result.map g
  state : Mirrors u ids o.state o'.state
  trace : visible o'.trace = (visible o.trace).map (Effect.renumber ids.idxOf)

variable {u : String} {ids : List Nat} {r r' : Registry} {k i : Nat}

/-! ### Parts -/

namespace Mirrors

lemma slot (h : Mirrors u ids r r') (hk : ids[k]? = some i) : r'.slots[k]? = r.slots[i]? := by
  rw [h.slots, hk, Option.bind_some]

lemma job (h : Mirrors u ids r r') (hk : ids[k]? = some i) : r'.job? k = r.job? i := by
  rw [job?, h.slot hk, job?]

lemma session (h : Mirrors u ids r r') (hk : ids[k]? = some i) : r'.session? k = r.session? i := by
  rw [session?, h.job hk, session?]

lemma child (h : Mirrors u ids r r') (hk : ids[k]? = some i) : r'.child? k = r.child? i := by
  rw [child?, h.slot hk, child?]

/-- No slot stands in two places. -/
lemma place_unique (h : Mirrors u ids r r') {k' : Nat} (hk : ids[k]? = some i)
    (hk' : ids[k']? = some i) : k' = k := by
  have hnodup : ids.Nodup := h.increasing.imp Nat.ne_of_lt
  obtain ⟨hlt, -⟩ := List.getElem?_eq_some_iff.1 hk'
  exact (List.getElem?_inj hlt hnodup).1 (hk'.trans hk.symm)

lemma idxOf_eq (h : Mirrors u ids r r') (hk : ids[k]? = some i) : ids.idxOf i = k :=
  h.place_unique hk (List.getElem?_idxOf (List.mem_of_getElem? hk))

lemma find (h : Mirrors u ids r r') (hk : ids[k]? = some i) :
    r'.find? u = some k ↔ r.find? u = some i := by
  have hserved := h.served
  constructor
  · intro hfind
    rw [hfind] at hserved
    generalize r.find? u = found at hserved ⊢
    cases hserved with
    | some hi => rw [Option.some.inj (hi.symm.trans hk)]
  · intro hfind
    rw [hfind] at hserved
    generalize r'.find? u = found at hserved ⊢
    cases hserved with
    | some hk' => rw [h.place_unique hk hk']

lemma find_cases (h : Mirrors u ids r r') :
    r.find? u = none ∧ r'.find? u = none ∨
      ∃ k i, ids[k]? = some i ∧ r.find? u = some i ∧ r'.find? u = some k := by
  have hserved := h.served
  generalize r.find? u = found, r'.find? u = found' at hserved ⊢
  cases hserved with
  | none => exact .inl ⟨rfl, rfl⟩
  | some hk => exact .inr ⟨_, _, hk, rfl, rfl⟩

/-! ### Changes -/

/-- A slot changes in both. -/
lemma updateSlot (h : Mirrors u ids r r') (hk : ids[k]? = some i) {f : Slot → Slot}
    (hf : ∀ sl job, r.slots[i]? = some sl → (f sl).job = some job → job.session.uri = u) :
    Mirrors u ids (r.updateSlot i f) (r'.updateSlot k f) := by
  refine { h with slots := ?_, owner := ?_ }
  · intro k'
    rw [getElem?_updateSlot, h.slots]
    cases hk' : ids[k']? with
    | none => simp
    | some i' =>
      have hplace : k = k' ↔ i = i' := by
        constructor
        · rintro rfl
          exact Option.some.inj (hk.symm.trans hk')
        · rintro rfl
          exact h.place_unique hk' hk
      simp [getElem?_updateSlot, hplace]
  · intro i' s hs
    rw [session?, job?_updateSlot] at hs
    split at hs
    · rename_i hi
      subst hi
      obtain ⟨job, hjob, rfl⟩ := Option.map_eq_some_iff.1 hs
      obtain ⟨sl, hsl, hfsl⟩ := Option.bind_eq_some_iff.1 hjob
      exact iff_of_true (hf sl job hsl hfsl) (List.mem_of_getElem? hk)
    · exact h.owner i' s hs

lemma uri_of_slot (h : Mirrors u ids r r') (hk : ids[k]? = some i) {sl : Slot} {job : Job}
    (hsl : r.slots[i]? = some sl) (hjob : sl.job = some job) : job.session.uri = u := by
  apply (h.owner i job.session ?_).2 (List.mem_of_getElem? hk)
  rw [session?, job?, hsl, Option.bind_some, hjob, Option.map_some]

lemma updateChild (h : Mirrors u ids r r') (hk : ids[k]? = some i) (f : Child → Child) :
    Mirrors u ids (r.updateChild i f) (r'.updateChild k f) := by
  apply h.updateSlot hk
  intro sl job hsl hjob
  exact h.uri_of_slot hk hsl hjob

lemma updateJob (h : Mirrors u ids r r') (hk : ids[k]? = some i) {f : Job → Job}
    (hf : ∀ job, r.job? i = some job → (f job).session.uri = job.session.uri) :
    Mirrors u ids (r.updateJob i f) (r'.updateJob k f) := by
  apply h.updateSlot hk
  intro sl job hsl hjob
  obtain ⟨job₀, hjob₀, rfl⟩ := Option.map_eq_some_iff.1 hjob
  rw [hf job₀ (by rw [job?, hsl, Option.bind_some, hjob₀])]
  exact h.uri_of_slot hk hsl hjob₀

lemma updateSession (h : Mirrors u ids r r') (hk : ids[k]? = some i) {f : Session → Session}
    (hf : ∀ s, r.session? i = some s → (f s).uri = s.uri) :
    Mirrors u ids (r.updateSession i f) (r'.updateSession k f) := by
  apply h.updateJob hk
  intro job hjob
  apply hf
  rw [session?, hjob, Option.map_some]

/-- The document is taken out of both. -/
lemma unregister (h : Mirrors u ids r r') : Mirrors u ids (r.unregister u) (r'.unregister u) := by
  refine { h with served := ?_, alone := ?_ }
  · simp only [find?_unregister, if_true]
    exact .none
  · intro v hv
    rw [find?_unregister, if_neg hv, h.alone v hv]

/-- A slot serves the document in both. -/
lemma register (h : Mirrors u ids r r') (hk : ids[k]? = some i) :
    Mirrors u ids (r.register u i) (r'.register u k) := by
  refine { h with served := ?_, alone := ?_ }
  · simp only [find?_register, if_true]
    exact .some hk
  · intro v hv
    rw [find?_register, if_neg hv, h.alone v hv]

/-- The next slot of the one is the next slot of the other. -/
lemma next (h : Mirrors u ids r r') (hmem : r.slots.length ∈ ids) :
    ids[r'.slots.length]? = some r.slots.length := by
  obtain ⟨k, hk⟩ := List.mem_iff_getElem?.1 hmem
  suffices hlength : r'.slots.length = k by rw [hlength, hk]
  apply Nat.le_antisymm
  · have hfree := h.slot hk
    rw [List.getElem?_eq_none (Nat.le_refl _)] at hfree
    exact List.getElem?_eq_none_iff.1 hfree
  · by_contra hle
    -- every place before the new one has a slot already
    have hlt : r'.slots.length < k := Nat.lt_of_not_le hle
    obtain ⟨hbound, hi⟩ := List.getElem?_eq_some_iff.1 hk
    have hplace : ids[r'.slots.length]? = some ids[r'.slots.length] :=
      List.getElem?_eq_getElem (Nat.lt_trans hlt hbound)
    have hless := List.pairwise_iff_getElem.1 h.increasing _ _ (Nat.lt_trans hlt hbound) hbound hlt
    have hslot := h.slot hplace
    rw [List.getElem?_eq_none (Nat.le_refl _), eq_comm, List.getElem?_eq_none_iff] at hslot
    rw [hi] at hless
    exact Nat.not_lt.2 hslot hless

/-- A process is started in both. -/
lemma extend (h : Mirrors u ids r r') (hmem : r.slots.length ∈ ids) :
    Mirrors u ids r.extend r'.extend := by
  have hnext := h.next hmem
  refine { h with slots := ?_, owner := ?_ }
  · intro k
    rw [getElem?_extend, h.slots, h.plan]
    cases hk : ids[k]? with
    | none =>
      rw [if_neg]
      · rfl
      · rintro rfl
        cases hnext.symm.trans hk
    | some i =>
      have hplace : k = r'.slots.length ↔ i = r.slots.length := by
        constructor
        · rintro rfl
          exact Option.some.inj (hk.symm.trans hnext)
        · rintro rfl
          exact h.place_unique hnext hk
      simp [getElem?_extend, hplace]
  · intro i s hs
    rw [session?_extend] at hs
    exact h.owner i s hs

/-- The processes change in both. -/
lemma mapChildren (h : Mirrors u ids r r') (change : Nat → Child → Child) :
    Mirrors u ids (r.mapChildren change) (r'.mapChildren fun k => change (slotAt ids k)) := by
  refine { h with slots := ?_, owner := ?_ }
  · intro k
    rw [Registry.mapChildren, List.getElem?_mapIdx, h.slots]
    cases hk : ids[k]? with
    | none => rfl
    | some i => simp [Registry.mapChildren, slotAt_eq hk]
  · intro i s hs
    rw [(mapChildren_views change r i).1] at hs
    exact h.owner i s hs

end Mirrors

/-! ### Acts -/

namespace Mirrored

variable {α β γ δ : Type}

lemma pure (h : Mirrors u ids r r') {g : α → β} {a : α} {b : β} (hab : b = g a) :
    Mirrored u ids g ((Pure.pure a : Act Registry α).run r)
      ((Pure.pure b : Act Registry β).run r') := by
  subst hab
  exact ⟨rfl, h, rfl⟩

lemma fail (h : Mirrors u ids r r') (g : α → β) (f : Fault) :
    Mirrored u ids g ((Act.fail f : Act Registry α).run r) ((Act.fail f : Act Registry β).run r') :=
  ⟨rfl, h, rfl⟩

lemma ofExcept (h : Mirrors u ids r r') (x : Except Fault α) :
    Mirrored u ids id ((Act.ofExcept x).run r) ((Act.ofExcept x).run r') := by
  cases x with
  | error f => exact .fail h _ f
  | ok a => exact ⟨rfl, h, rfl⟩

lemma log (h : Mirrors u ids r r') (n : Notice) :
    Mirrored u ids id ((Act.log n).run r) ((Act.log n).run r') :=
  ⟨rfl, h, rfl⟩

lemma modify {f f' : Registry → Registry} (h : Mirrors u ids (f r) (f' r')) :
    Mirrored u ids id ((Act.modify f).run r) ((Act.modify f').run r') :=
  ⟨rfl, h, rfl⟩

lemma emit (h : Mirrors u ids r r') {e e' : Effect} (he : e' = e.renumber ids.idxOf)
    (hvisible : e'.isVisible = e.isVisible) :
    Mirrored u ids id ((Act.emit e).run r) ((Act.emit e').run r') := by
  refine ⟨rfl, h, ?_⟩
  simp only [Act.run_emit, visible, List.filter_cons, List.filter_nil, hvisible]
  split <;> simp [he]

lemma bind {act : Act Registry α} {act' : Act Registry β} {next : α → Act Registry γ}
    {next' : β → Act Registry δ} {g : α → β} {g' : γ → δ}
    (h : Mirrored u ids g (act.run r) (act'.run r'))
    (hnext : ∀ a, (act.run r).result = .ok a →
      Mirrors u ids (act.run r).state (act'.run r').state →
      Mirrored u ids g' ((next a).run (act.run r).state) ((next' (g a)).run (act'.run r').state)) :
    Mirrored u ids g' ((act >>= next).run r) ((act' >>= next').run r') := by
  have hresult := h.result
  cases hr : (act.run r).result with
  | error f =>
    rw [hr] at hresult
    rw [Act.run_bind_error _ _ _ hr, Act.run_bind_error _ _ _ hresult]
    exact ⟨rfl, h.state, h.trace⟩
  | ok a =>
    rw [hr] at hresult
    have hrest := hnext a hr h.state
    rw [Act.run_bind_ok _ _ _ hr, Act.run_bind_ok _ _ _ hresult]
    refine ⟨hrest.result, hrest.state, ?_⟩
    rw [visible_append, visible_append, List.map_append, h.trace, hrest.trace]

lemma catching {act : Act Registry α} {handler : Fault → Option (Act Registry α)} {g : α → α}
    (h : Mirrored u ids g (act.run r) (act.run r'))
    (hrescue : ∀ f rescue s s', handler f = some rescue → Mirrors u ids s s' →
      Mirrored u ids g (rescue.run s) (rescue.run s')) :
    Mirrored u ids g ((act.catching handler).run r) ((act.catching handler).run r') := by
  have hresult := h.result
  cases hr : (act.run r).result with
  | ok a =>
    rw [hr] at hresult
    rwa [Act.run_catching_ok _ _ hr, Act.run_catching_ok _ _ hresult]
  | error f =>
    rw [hr] at hresult
    cases hf : handler f with
    | none => rwa [Act.run_catching_unhandled _ _ hr hf, Act.run_catching_unhandled _ _ hresult hf]
    | some rescue =>
      have hrest := hrescue f rescue _ _ hf h.state
      rw [Act.run_catching_handled _ _ hr hf, Act.run_catching_handled _ _ hresult hf]
      refine ⟨hrest.result, hrest.state, ?_⟩
      rw [visible_append, visible_append, List.map_append, h.trace, hrest.trace]

lemma map {act : Act Registry α} {act' : Act Registry β} {g : α → β}
    (h : Mirrored u ids g (act.run r) (act'.run r')) {p : α → γ} {q : β → δ} {g' : γ → δ}
    (hg : ∀ a, q (g a) = g' (p a)) :
    Mirrored u ids g' ((p <$> act).run r) ((q <$> act').run r') := by
  rw [Act.run_map, Act.run_map]
  refine ⟨?_, h.state, h.trace⟩
  dsimp only
  rw [h.result]
  cases (act.run r).result with
  | error f => rfl
  | ok a => exact congrArg Except.ok (hg a)

end Mirrored

/-! ### Operations -/

lemma mirrored_closeStdin (h : Mirrors u ids r r') (hk : ids[k]? = some i) (uri : String)
    (c : Child) :
    Mirrored u ids id ((closeStdin i uri c).run r) ((closeStdin k uri c).run r') := by
  rw [closeStdin, closeStdin]
  split
  · refine .bind (.modify (h.updateChild hk _)) ?_
    intro _ _ h
    split
    · exact .pure h rfl
    · exact .log h _
    · exact .fail h _ _
  · exact .pure h rfl

lemma mirrored_requestEnd (h : Mirrors u ids r r') (hk : ids[k]? = some i) (uri : String)
    (c : Child) :
    Mirrored u ids id ((requestEnd i uri c).run r) ((requestEnd k uri c).run r') := by
  rw [requestEnd, requestEnd]
  split
  · exact .pure h rfl
  · refine .bind (.log h _) ?_
    intro _ _ h
    refine .bind (.modify (h.updateChild hk _)) ?_
    intro _ _ h
    exact .modify (h.updateJob hk fun _ _ => rfl)

lemma mirrored_terminate (h : Mirrors u ids r r') (hk : ids[k]? = some i) :
    Mirrored u ids id ((terminate i).run r) ((terminate k).run r') := by
  rw [terminate, terminate, Act.run_get_bind, Act.run_get_bind, h.session hk, h.child hk]
  cases r.session? i with
  | none => exact .pure h rfl
  | some s =>
    cases r.child? i with
    | none => exact .pure h rfl
    | some c =>
      refine .bind (.modify (h.updateSession hk fun _ _ => rfl)) ?_
      intro _ _ h
      refine .bind (mirrored_closeStdin h hk s.uri c) ?_
      intro _ _ h
      exact mirrored_requestEnd h hk s.uri c

lemma mirrored_close (h : Mirrors u ids r r') :
    Mirrored u ids id ((close u).run r) ((close u).run r') := by
  rw [close, Act.run_get_bind, Act.run_get_bind]
  rcases h.find_cases with ⟨hnone, hnone'⟩ | ⟨k, i, hk, hfind, hfind'⟩
  · simp only [hnone, hnone']
    exact .pure h rfl
  · simp only [hfind, hfind']
    refine .bind (.modify h.unregister) ?_
    intro _ _ h
    refine .bind (mirrored_terminate h hk) ?_
    intro _ _ h
    exact .pure h rfl

lemma mirrored_discard (h : Mirrors u ids r r') (hk : ids[k]? = some i) :
    Mirrored u ids id ((discard i).run r) ((discard k).run r') := by
  rw [discard, discard, Act.run_get_bind, Act.run_get_bind, h.session hk]
  cases hs : r.session? i with
  | none => exact .pure h rfl
  | some s =>
    have huri : s.uri = u := (h.owner i s hs).2 (List.mem_of_getElem? hk)
    simp only [huri, h.find hk]
    split
    · refine .bind (.modify h.unregister) ?_
      intro _ _ h
      refine .bind (mirrored_terminate h hk) ?_
      intro _ _ h
      exact .pure h rfl
    · exact .pure h rfl

/-- An act on a session that only tells the editor something. -/
lemma mirrored_onSession {α : Type} (h : Mirrors u ids r r') (hk : ids[k]? = some i) (absent : α)
    {act : Act Session α} (huri : ∀ s, (act.run s).state.uri = s.uri)
    (hact : ∀ s, ∃ es : List EditorEvent, visible (act.run s).trace = es.map .event) :
    Mirrored u ids id ((onSession i absent act).run r) ((onSession k absent act).run r') := by
  have hsession := h.session hk
  cases hs : r.session? i with
  | none =>
    rw [hs] at hsession
    simp only [onSession, Act.run, hs, hsession]
    exact ⟨rfl, h, rfl⟩
  | some s =>
    rw [hs] at hsession
    rw [run_onSession hs, run_onSession hsession]
    refine ⟨?_, ?_, ?_⟩
    · cases (act.run s).result <;> rfl
    · dsimp only
      apply h.updateSession hk
      intro s' hs'
      rw [huri, Option.some.inj (hs.symm.trans hs')]
    · obtain ⟨es, hes⟩ := hact s
      rw [hes, map_renumber_event]

lemma mirrored_transportError (h : Mirrors u ids r r') (v message : String) :
    Mirrored u ids id ((Session.transportError v message).run r)
      ((Session.transportError v message).run r') :=
  ⟨rfl, h, rfl⟩

lemma mirrored_writeLine (h : Mirrors u ids r r') (hk : ids[k]? = some i) (line : List Char) :
    Mirrored u ids id ((writeLine i line).run r) ((writeLine k line).run r') := by
  rw [writeLine, writeLine, Act.run_get_bind, Act.run_get_bind, h.session hk, h.child hk]
  cases r.session? i with
  | none => exact .pure h rfl
  | some s =>
    cases r.child? i with
    | none => exact .pure h rfl
    | some c =>
      dsimp only
      split
      · refine .bind (.modify (h.updateChild hk _)) ?_
        intro _ _ h
        split
        · refine .emit h ?_ rfl
          rw [Effect.renumber, h.idxOf_eq hk]
        · exact .fail h _ _
        · exact .fail h _ _
      · exact .fail h _ _

lemma mirrored_send (h : Mirrors u ids r r') (q : Query) :
    Mirrored u ids id ((send u q).run r) ((send u q).run r') := by
  rw [send, Act.run_get_bind, Act.run_get_bind]
  rcases h.find_cases with ⟨hnone, hnone'⟩ | ⟨k, i, hk, hfind, hfind'⟩
  · simp only [hnone, hnone']
    refine .bind (.log h _) ?_
    intro _ _ h
    exact .pure h rfl
  · simp only [hfind, hfind', h.session hk]
    refine .bind (.modify (h.updateSession hk fun _ _ => rfl)) ?_
    intro _ _ h
    refine .bind (.ofExcept h _) ?_
    intro line _ h
    refine .bind (mirrored_writeLine h hk line) ?_
    intro _ _ h
    refine .bind (.log h _) ?_
    intro _ _ h
    exact .pure h rfl

/-! ### Starting a process -/

/-- Whether the processes that are started in a trace are those of some slots. -/
def StartsIn (ids : List Nat) (tr : List Effect) : Prop :=
  ∀ i command directory, .spawned i command directory ∈ tr → i ∈ ids

section Starts

variable {α β : Type} {act : Act Registry α} {next : α → Act Registry β}

lemma StartsIn.first (h : StartsIn ids ((act >>= next).run r).trace) :
    StartsIn ids (act.run r).trace := by
  intro i command directory hmem
  apply h i command directory
  cases hr : (act.run r).result with
  | error f => rwa [Act.run_bind_error _ _ _ hr]
  | ok a =>
    rw [Act.run_bind_ok _ _ _ hr]
    exact List.mem_append_left _ hmem

lemma StartsIn.behind (h : StartsIn ids ((act >>= next).run r).trace) {a : α}
    (hr : (act.run r).result = .ok a) : StartsIn ids ((next a).run (act.run r).state).trace := by
  intro i command directory hmem
  apply h i command directory
  rw [Act.run_bind_ok _ _ _ hr]
  exact List.mem_append_right _ hmem

lemma StartsIn.caught {handler : Fault → Option (Act Registry α)}
    (h : StartsIn ids ((act.catching handler).run r).trace) : StartsIn ids (act.run r).trace := by
  intro i command directory hmem
  apply h i command directory
  cases hr : (act.run r).result with
  | ok a => rwa [Act.run_catching_ok _ _ hr]
  | error f =>
    cases hf : handler f with
    | none => rwa [Act.run_catching_unhandled _ _ hr hf]
    | some rescue =>
      rw [Act.run_catching_handled _ _ hr hf]
      exact List.mem_append_left _ hmem

end Starts

lemma mirrored_spawn (h : Mirrors u ids r r') (command : List String) (directory : Path)
    (hstarts : StartsIn ids ((spawn command directory).run r).trace) :
    Mirrored u ids ids.idxOf ((spawn command directory).run r)
        ((spawn command directory).run r') ∧
      ∀ i, ((spawn command directory).run r).result = .ok i → i ∈ ids := by
  rw [spawn, Act.run_get_bind] at hstarts ⊢
  rw [Act.run_get_bind, h.plan, h.config]
  generalize r.plan.error = error at hstarts ⊢
  rcases error with _ | (e | e | e)
  · have hmem : r.slots.length ∈ ids :=
      hstarts r.slots.length command directory.toString (List.mem_cons_self ..)
    have hplace := h.idxOf_eq (h.next hmem)
    refine ⟨⟨?_, h.extend hmem, ?_⟩, ?_⟩
    · simp [Except.map, hplace]
    · simp [Effect.renumber, hplace]
    · intro i hi
      rwa [← Except.ok.inj hi]
  all_goals
    refine ⟨.fail h _ _, ?_⟩
    intro i hi
    cases hi

/-- A session is started for the document in both. -/
lemma mirrored_openSession (h : Mirrors u ids r r') (directory : Path) (file : String)
    (hstarts : StartsIn ids ((openSession u directory file).run r).trace) :
    Mirrored u ids ids.idxOf ((openSession u directory file).run r)
      ((openSession u directory file).run r') := by
  rw [openSession] at hstarts ⊢
  refine .bind (mirrored_close h) ?_
  intro _ hclosed h
  replace hstarts := hstarts.behind hclosed
  rw [Act.run_get_bind] at hstarts ⊢
  rw [Act.run_get_bind, h.config, h.plan]
  refine .bind (.log h _) ?_
  intro _ _ h
  replace hstarts := hstarts.behind rfl
  obtain ⟨hspawn, hmem⟩ := mirrored_spawn h _ directory hstarts.first
  refine .bind hspawn ?_
  intro i hi h
  -- the new slot stands in the place that is next in the run of the document
  have hk := List.getElem?_idxOf (hmem i hi)
  dsimp only
  split
  · refine .bind (.modify (h.updateSlot hk ?_)) ?_
    · intro sl job _ hjob
      cases hjob
      rfl
    · intro _ _ h
      refine .bind (.modify (h.register hk)) ?_
      intro _ _ h
      exact .pure h rfl
  · exact .fail h _ _

end Registry

namespace Bridge

open Registry

variable {u : String} {ids : List Nat} {r r' : Registry} {k i : Nat}

/-! ### Documents -/

lemma mirrored_sendOrReport (h : Mirrors u ids r r') (q : Query) :
    Mirrored u ids id ((sendOrReport u q).run r) ((sendOrReport u q).run r') := by
  apply Mirrored.catching (mirrored_send h q)
  intro f rescue s s' hrescue h
  split at hrescue
  · cases hrescue
    rw [Act.run_get_bind, Act.run_get_bind]
    rcases h.find_cases with ⟨hnone, hnone'⟩ | ⟨k, i, hk, hfind, hfind'⟩
    · simp only [hnone, hnone']
      refine .bind (mirrored_transportError h u _) ?_
      intro _ _ h
      exact .pure h rfl
    · simp only [hfind, hfind']
      refine .bind (mirrored_discard h hk) ?_
      intro _ _ h
      refine .bind (mirrored_transportError h u _) ?_
      intro _ _ h
      exact .pure h rfl
  · cases hrescue

lemma mirrored_changeDocument (h : Mirrors u ids r r') (text : String) :
    Mirrored u ids id ((changeDocument u text).run r) ((changeDocument u text).run r') := by
  rw [changeDocument, Act.run_get_bind, Act.run_get_bind]
  rcases h.find_cases with ⟨hnone, hnone'⟩ | ⟨k, i, hk, hfind, hfind'⟩
  · simp only [hnone, hnone']
    refine .bind (.log h _) ?_
    intro _ _ h
    exact .pure h rfl
  · simp only [hfind, hfind']
    have hclear : ∀ s : Session, ∃ es : List EditorEvent,
        visible (Session.clear.run s).trace = es.map .event := by
      intro s
      exact ⟨[.publish s.uri [], .statusClear s.uri], rfl⟩
    refine .bind (mirrored_onSession h hk () (fun _ => rfl) hclear) ?_
    intro _ _ h
    refine .bind (mirrored_sendOrReport h _) ?_
    intro n _ h
    cases n with
    | none => exact .pure h rfl
    | some n =>
      refine .bind (.modify (h.updateSession hk fun _ _ => rfl)) ?_
      intro _ _ h
      exact .pure h rfl

lemma mirrored_startSession (h : Mirrors u ids r r') (path : Path)
    (hstarts : StartsIn ids ((startSession u path).run r).trace) :
    Mirrored u ids (Option.map ids.idxOf) ((startSession u path).run r)
      ((startSession u path).run r') := by
  apply Mirrored.catching
  · refine .bind (mirrored_openSession h _ _ hstarts.caught.first) ?_
    intro i _ h
    exact .pure h rfl
  · intro f rescue s s' hrescue h
    split at hrescue
    · cases hrescue
      refine .bind (mirrored_transportError h u _) ?_
      intro _ _ h
      exact .pure h rfl
    · cases hrescue

/-- The document is opened in both. -/
lemma mirrored_openDocument (h : Mirrors u ids r r') (text : String) (path : Path)
    (hstarts : StartsIn ids ((openDocument u text path).run r).trace) :
    Mirrored u ids (Option.map ids.idxOf) ((openDocument u text path).run r)
      ((openDocument u text path).run r') := by
  rw [openDocument] at hstarts ⊢
  refine .bind (.log h _) ?_
  intro _ _ h
  refine .bind (mirrored_startSession h path (hstarts.behind rfl).first) ?_
  intro i _ h
  cases i with
  | none => exact .pure h rfl
  | some i =>
    refine .bind (mirrored_sendOrReport h _) ?_
    intro n _ h
    cases n with
    | none => exact .pure h rfl
    | some n =>
      refine .bind (mirrored_changeDocument h text) ?_
      intro _ _ h
      exact .pure h rfl

lemma mirrored_openUri (h : Mirrors u ids r r') (text : String)
    (hstarts : StartsIn ids ((openUri u text).run r).trace) :
    Mirrored u ids (Option.map ids.idxOf) ((openUri u text).run r) ((openUri u text).run r') := by
  rw [openUri] at hstarts ⊢
  cases hpath : (Uri.toPath u).mapError Fault.uri with
  | error f => exact .fail h _ f
  | ok path =>
    rw [hpath] at hstarts
    exact mirrored_openDocument h text path hstarts

lemma mirrored_closeDocument (h : Mirrors u ids r r') :
    Mirrored u ids id ((closeDocument u).run r) ((closeDocument u).run r') := by
  refine .bind (.log h _) ?_
  intro _ _ h
  exact mirrored_close h

/-! ### Callbacks -/

lemma isOpen_of_mirrors (h : Mirrors u ids r r') (hk : ids[k]? = some i) :
    isOpen r' k = isOpen r i := by
  rw [isOpen, h.session hk, isOpen]

/-- A checker of the document is heard in both. -/
lemma mirrored_handleOutput [Limits] (h : Mirrors u ids r r') (hk : ids[k]? = some i)
    (text : List Char) :
    Mirrored u ids id ((handleOutput i text).run r) ((handleOutput k text).run r') := by
  rw [handleOutput, handleOutput, Act.run_get_bind, Act.run_get_bind, isOpen_of_mirrors h hk]
  split
  · refine .bind (mirrored_onSession h hk [] ?_ ?_) ?_
    · intro s
      obtain ⟨es, ds, -, -, hstate⟩ := Session.hears_dispatchLines (s.lines.feed text).1 s
      rw [Session.run_feed, hstate]
      rfl
    · intro s
      obtain ⟨es, ds, -, htrace, -⟩ := Session.hears_dispatchLines (s.lines.feed text).1 s
      exact ⟨es, by rw [Session.run_feed, htrace]⟩
    · intro _ _ h
      exact .pure h rfl
  · exact .pure h rfl

/-- A checker of the document ends in both. -/
lemma mirrored_handleExit [Limits] (h : Mirrors u ids r r') (hk : ids[k]? = some i)
    (code : Option Int) :
    Mirrored u ids id ((handleExit i code).run r) ((handleExit k code).run r') := by
  rw [handleExit, handleExit, Act.run_get_bind, Act.run_get_bind, isOpen_of_mirrors h hk,
    h.session hk]
  split
  · refine .bind (mirrored_onSession h hk [] ?_ ?_) ?_
    · intro s
      obtain ⟨es, ds, -, -, hstate⟩ := Session.hears_dispatchLines s.lines.flush.1 s
      rw [Session.run_finish, hstate]
      rfl
    · intro s
      obtain ⟨es, ds, -, htrace, -⟩ := Session.hears_dispatchLines s.lines.flush.1 s
      exact ⟨es, by rw [Session.run_finish, htrace]⟩
    · intro _ _ h
      refine .bind (mirrored_discard h hk) ?_
      intro found _ h
      cases found with
      | false => exact .pure h rfl
      | true =>
        refine .bind (mirrored_transportError h _ _) ?_
        intro _ _ h
        exact .pure h rfl
  · exact .pure h rfl

/-- The reaper of a process of the document has its turn in both. -/
lemma mirrored_reap (h : Mirrors u ids r r') (hk : ids[k]? = some i) :
    Mirrored u ids id ((reap i).run r) ((reap k).run r') := by
  rw [reap, reap, Act.run_get_bind, Act.run_get_bind, h.job hk, h.child hk]
  split
  · refine .bind (.modify (h.updateJob hk fun _ _ => rfl)) ?_
    intro _ _ h
    split
    · refine .bind (.log h _) ?_
      intro _ _ h
      refine .bind (.modify (h.updateChild hk _)) ?_
      intro _ _ h
      split
      · exact .log h _
      · exact .pure h rfl
    · exact .pure h rfl
  · exact .pure h rfl

/-! ### All documents -/

/-- The sessions of the document that are ended by a shutdown are the same in both. -/
lemma registered_of_mirrors (h : Mirrors u ids r r') (hr : r.Orderly) (hr' : r'.Orderly)
    (hk : ids[k]? = some i) : k ∈ r'.registered.map (·.2) ↔ i ∈ r.registered.map (·.2) := by
  constructor
  · intro hmem
    obtain ⟨⟨v, k⟩, he, rfl⟩ := List.mem_map.1 hmem
    have hfind := (mem_registered_iff hr'.keys).1 he
    have hv : v = u := by
      by_contra hv
      rw [h.alone v hv] at hfind
      cases hfind
    subst hv
    exact mem_registered_of_find? ((h.find hk).1 hfind)
  · intro hmem
    obtain ⟨⟨v, i⟩, he, rfl⟩ := List.mem_map.1 hmem
    have hfind := (mem_registered_iff hr.keys).1 he
    obtain ⟨s, hs, hv, -⟩ := hr.serves v i hfind
    have hu : s.uri = u := (h.owner i s hs).2 (List.mem_of_getElem? hk)
    rw [← hv, hu] at hfind
    exact mem_registered_of_find? ((h.find hk).2 hfind)

lemma mirrored_shutdown (h : Mirrors u ids r r') (hr : r.Orderly) (hr' : r'.Orderly) :
    Mirrored u ids id (shutdown.run r) (shutdown.run r') := by
  obtain ⟨hresult, hreleases⟩ := releases_closeAll hr.keys hr.serves fun _ _ _ hs hc =>
    hr.closeFault?_eq_none hs hc
  obtain ⟨hresult', hreleases'⟩ := releases_closeAll hr'.keys hr'.serves fun _ _ _ hs hc =>
    hr'.closeFault?_eq_none hs hc
  obtain ⟨_, hends, hsilent, -⟩ := ends_shutdown r
  obtain ⟨_, hends', hsilent', -⟩ := ends_shutdown r'
  refine ⟨?_, ?_, ?_⟩
  · rw [shutdown, hresult, hresult']
    rfl
  · refine ⟨h.increasing, ?_, ?_, ?_, ?_, ?_, ?_⟩
    · rw [shutdown, (lasting_config r'.config).closeAll r' rfl, h.config]
      exact ((lasting_config r.config).closeAll r rfl).symm
    · rw [shutdown, (stable_plan r'.plan).closeAll r' rfl, h.plan]
      exact ((stable_plan r.plan).closeAll r rfl).symm
    · -- other documents lose their sessions too, but those are in other slots
      intro k
      rw [shutdown, hreleases'.slots, h.slots]
      cases hk : ids[k]? with
      | none => simp
      | some i =>
        simp only [Option.bind_some, hreleases.slots, registered_of_mirrors h hr hr' hk]
    · rw [hends.find, hends'.find]
      exact .none
    · intro v _
      exact hends'.find v
    · intro i s hs
      rw [shutdown, hreleases.session] at hs
      split at hs
      · obtain ⟨t, ht, rfl⟩ := Option.map_eq_some_iff.1 hs
        exact h.owner i t ht
      · exact h.owner i s hs
  · rw [hsilent, hsilent']
    rfl

end Bridge

end ProverLink
