import ProverLink.Proofs.Ownership

/-!
# What every operation keeps

The operations change a registry in a few ways only. A property that survives these survives every
step of a run. In the same way only one operation starts processes, so what is true of every other
effect, and of the processes it starts, is true of all that an operation leaves in the trace.
-/

namespace ProverLink

/-! ### Acts -/

/-- A property that holds before an act holds behind it. -/
def Act.Keeps {σ α : Type} (P : σ → Prop) (act : Act σ α) : Prop := ∀ s, P s → P (act.run s).state

/-- A property that holds before an act holds behind it, and then all effects of the act are
allowed. -/
def Act.Guards {σ α : Type} (P : σ → Prop) (E : Effect → Prop) (act : Act σ α) : Prop :=
  ∀ s, P s → P (act.run s).state ∧ ∀ e ∈ (act.run s).trace, E e

namespace Act.Guards

variable {σ τ α β : Type} {P : σ → Prop} {E : Effect → Prop}

lemma keeps {act : Act σ α} (h : Guards P E act) : Keeps P act := fun s hs => (h s hs).1

lemma allowed {act : Act σ α} (h : Guards P E act) {s : σ} (hs : P s) {e : Effect}
    (he : e ∈ (act.run s).trace) : E e :=
  (h s hs).2 e he

lemma mono {F : Effect → Prop} {act : Act σ α} (h : Guards P E act) (hE : ∀ e, E e → F e) :
    Guards P F act :=
  fun s hs => ⟨(h s hs).1, fun e he => hE e ((h s hs).2 e he)⟩

/-- What an act without effects does. -/
lemma silent {act : Act σ α} (h : ∀ s, P s → P (act.run s).state)
    (htrace : ∀ s, (act.run s).trace = []) : Guards P E act :=
  fun s hs => ⟨h s hs, by simp [htrace s]⟩

lemma pure (a : α) : Guards P E (Pure.pure a : Act σ α) := .silent (fun _ h => h) fun _ => rfl

lemma fail (f : Fault) : Guards P E (Act.fail f : Act σ α) := .silent (fun _ h => h) fun _ => rfl

lemma modify {g : σ → σ} (h : ∀ s, P s → P (g s)) : Guards P E (Act.modify g) :=
  .silent h fun _ => rfl

lemma emit {e : Effect} (he : E e) : Guards P E (Act.emit e) :=
  fun _ h => ⟨h, fun _ he' => List.mem_singleton.1 he' ▸ he⟩

lemma ofExcept (x : Except Fault α) : Guards P E (Act.ofExcept x) := by
  cases x with
  | ok a => exact Guards.pure a
  | error f => exact Guards.fail f

/-- What follows may depend on the state, which has the property. -/
lemma get_bind {next : σ → Act σ β} (h : ∀ s, P s → Guards P E (next s)) :
    Guards P E (Act.get >>= next) :=
  fun s hs => h s hs s hs

lemma bind {act : Act σ α} {next : α → Act σ β} (hact : Guards P E act)
    (hnext : ∀ a, Guards P E (next a)) : Guards P E (act >>= next) := by
  intro s hs
  obtain ⟨hstate, htrace⟩ := hact s hs
  cases hr : (act.run s).result with
  | error f =>
    rw [run_bind_error act next s hr]
    exact ⟨hstate, htrace⟩
  | ok a =>
    rw [run_bind_ok act next s hr]
    obtain ⟨hstate', htrace'⟩ := hnext a _ hstate
    exact ⟨hstate', List.forall_mem_append.2 ⟨htrace, htrace'⟩⟩

lemma map {act : Act σ α} (hact : Guards P E act) (g : α → β) : Guards P E (g <$> act) := by
  intro s hs
  rw [run_map]
  exact hact s hs

lemma attempt {act : Act σ α} (hact : Guards P E act) : Guards P E act.attempt := hact

lemma catching {act : Act σ α} {handler : Fault → Option (Act σ α)} (hact : Guards P E act)
    (hrescue : ∀ f rescue, handler f = some rescue → Guards P E rescue) :
    Guards P E (act.catching handler) := by
  intro s hs
  obtain ⟨hstate, htrace⟩ := hact s hs
  cases hr : (act.run s).result with
  | ok a =>
    rw [run_catching_ok act s hr]
    exact ⟨hstate, htrace⟩
  | error f =>
    cases hf : handler f with
    | none =>
      rw [run_catching_unhandled act s hr hf]
      exact ⟨hstate, htrace⟩
    | some rescue =>
      rw [run_catching_handled act s hr hf]
      obtain ⟨hstate', htrace'⟩ := hrescue f rescue hf _ hstate
      exact ⟨hstate', List.forall_mem_append.2 ⟨htrace, htrace'⟩⟩

lemma each {act : α → Act σ Unit} (hact : ∀ a, Guards P E (act a)) (items : List α) :
    Guards P E (Act.each act items) := by
  induction items with
  | nil => exact Guards.pure ()
  | cons a rest ih => exact Guards.bind (hact a) fun _ => ih

/-- What an act on a part of the state keeps, it keeps of the whole. -/
lemma focus {Q : τ → Prop} {part : σ → τ} {put : τ → σ → σ} {act : Act τ α} (hact : Guards Q E act)
    (hpart : ∀ s, P s → Q (part s)) (hput : ∀ s t, P s → Q t → P (put t s)) :
    Guards P E (Act.focus part put act) := by
  intro s hs
  obtain ⟨hstate, htrace⟩ := hact (part s) (hpart s hs)
  exact ⟨hput s _ hs hstate, htrace⟩

end Act.Guards

/-- Whether an effect is the start of a process. -/
def Effect.IsSpawn : Effect → Prop
  | .spawned .. => True
  | _ => False

/-- Without the log there are only events, so no process is started. -/
lemma not_isSpawn_of_visible {trace : List Effect} {es : List EditorEvent}
    (h : visible trace = es.map .event) : ∀ e ∈ trace, ¬ e.IsSpawn := by
  intro e he hspawn
  cases e with
  | spawned id command directory =>
    have hmem : Effect.spawned id command directory ∈ es.map .event := by
      rw [← h]
      exact List.mem_filter.2 ⟨he, rfl⟩
    obtain ⟨_, _, hevent⟩ := List.mem_map.1 hmem
    cases hevent
  | _ => exact hspawn

namespace Session

variable [Limits]

lemma not_isSpawn_of_mem_feed {chunk : List Char} {s : Session} {e : Effect}
    (he : e ∈ ((feed chunk).run s).trace) : ¬ e.IsSpawn := by
  obtain ⟨_, _, _, hvisible, _⟩ := hears_dispatchLines (s.lines.feed chunk).1 s
  rw [run_feed] at he
  exact not_isSpawn_of_visible hvisible e he

lemma not_isSpawn_of_mem_finish {s : Session} {e : Effect} (he : e ∈ (finish.run s).trace) :
    ¬ e.IsSpawn := by
  obtain ⟨_, _, _, hvisible, _⟩ := hears_dispatchLines s.lines.flush.1 s
  rw [run_finish] at he
  exact not_isSpawn_of_visible hvisible e he

end Session

namespace Registry

/-! ### Operations -/

/-- A property that survives all that operations do to a registry. What they do to a process does
not change whether its standard input can be closed. -/
structure Stable (P : Registry → Prop) : Prop where
  updateSlot : ∀ r id f, (∀ sl, (f sl).child.closeFault? = sl.child.closeFault?) → P r →
    P (updateSlot id f r)
  unregister : ∀ r u, P r → P (r.unregister u)
  register : ∀ r u id, P r → P (r.register u id)
  dismiss : ∀ r, P r → P { r with registered := [] }
  extend : ∀ r, P r → P r.extend

/-- A property that survives what is done to a registry from outside as well. -/
structure Lasting (P : Registry → Prop) : Prop extends Stable P where
  plan : ∀ r p, P r → P { r with plan := p }
  world : ∀ r change, (∀ id c, Child.closeFault? c = none → (change id c).closeFault? = none) →
    P r → P (r.mapChildren change)

/-- A property that survives all operations, and a set of effects that can leave out none but the
start of a process. -/
structure Guard (P : Registry → Prop) (E : Effect → Prop) : Prop extends Stable P where
  quiet : ∀ e, ¬ e.IsSpawn → E e

lemma Stable.guard {P : Registry → Prop} (hP : Stable P) : Guard P (fun _ => True) :=
  { hP with quiet := fun _ _ => trivial }

section Operations

open Act

variable {P : Registry → Prop} {E : Effect → Prop} (hG : Guard P E)
include hG

lemma Guard.log (n : Notice) : Guards P E (Act.log n : Act Registry Unit) :=
  .emit (hG.quiet _ id)

lemma Guard.transportError (u message : String) :
    Guards P E (Session.transportError u message : Act Registry Diagnostic) :=
  .bind (hG.log _) fun _ => .bind (.emit (hG.quiet _ id)) fun _ =>
    .bind (.emit (hG.quiet _ id)) fun _ => .pure _

lemma Guard.updateChild (id : Nat) {f : Child → Child}
    (hf : ∀ c, (f c).closeFault? = c.closeFault?) : Guards P E (Act.modify (updateChild id f)) :=
  .modify fun r => hG.updateSlot r id _ fun sl => hf sl.child

lemma Guard.updateJob (id : Nat) (f : Job → Job) : Guards P E (Act.modify (updateJob id f)) :=
  .modify fun r => hG.updateSlot r id _ fun _ => rfl

lemma Guard.onSession {α : Type} (id : Nat) (absent : α) {act : Act Session α}
    (hact : ∀ s, ∀ e ∈ (act.run s).trace, ¬ e.IsSpawn) : Guards P E (onSession id absent act) := by
  intro r hr
  cases hs : r.session? id with
  | none =>
    have hrun : (Registry.onSession id absent act).run r
        = { result := .ok absent, state := r } := by
      rw [Act.run, Registry.onSession, hs]
    rw [hrun]
    exact ⟨hr, fun _ he => (List.not_mem_nil he).elim⟩
  | some s =>
    rw [run_onSession hs]
    exact ⟨hG.updateSlot r id _ (fun _ => rfl) hr, fun e he => hG.quiet e (hact s e he)⟩

lemma Guard.closeStdin (id : Nat) (uri : String) (c : Child) :
    Guards P E (closeStdin id uri c) := by
  rw [Registry.closeStdin]
  split
  · refine .bind (hG.updateChild id fun _ => rfl) fun _ => ?_
    split
    · exact .pure ()
    · exact hG.log _
    · exact .fail _
  · exact .pure ()

lemma Guard.requestEnd (id : Nat) (uri : String) (c : Child) :
    Guards P E (requestEnd id uri c) := by
  rw [Registry.requestEnd]
  split
  · exact .pure ()
  · refine .bind (hG.log _) fun _ => .bind (hG.updateChild id fun c => ?_) fun _ =>
      hG.updateJob id _
    rw [Child.terminate]
    split <;> rfl

lemma Guard.terminate (id : Nat) : Guards P E (terminate id) := by
  refine .get_bind fun r _ => ?_
  split
  · refine .bind (hG.updateJob id _) fun _ => .bind (hG.closeStdin id _ _) fun _ => ?_
    exact hG.requestEnd id _ _
  · exact .pure ()

lemma Guard.close (u : String) : Guards P E (close u) := by
  refine .get_bind fun r _ => ?_
  split
  · exact .pure false
  · refine .bind (.modify fun r => hG.unregister r u) fun _ => .bind (hG.terminate _) fun _ => ?_
    exact .pure true

lemma Guard.discard (id : Nat) : Guards P E (discard id) := by
  refine .get_bind fun r _ => ?_
  split
  · exact .pure false
  · split
    · refine .bind (.modify fun r => hG.unregister r _) fun _ => .bind (hG.terminate _) fun _ => ?_
      exact .pure true
    · exact .pure false

lemma Guard.closeAll : Guards P E closeAll :=
  .get_bind fun _ _ => .bind (.modify hG.dismiss) fun _ => .each hG.terminate _

/-- A process is started with the command of a configuration that the registry has. -/
lemma Guard.openSession (u : String) {directory : Path} {file : String}
    (hspawn : ∀ r, P r → ∀ id, E (.spawned id (r.config.command file) directory.toString)) :
    Guards P E (openSession u directory file) := by
  refine .bind (hG.close u) fun _ => .get_bind fun r hr => .bind (hG.log _) fun _ =>
    .bind (.get_bind fun r' _ => ?_) fun id => ?_
  · split
    · exact .fail _
    · exact .fail _
    · exact .bind (.emit (hspawn r hr _)) fun _ => .bind (.modify hG.extend) fun _ => .pure _
  · dsimp only
    split
    · exact .bind (.modify fun r => hG.updateSlot r id _ fun _ => rfl) fun _ =>
        .bind (.modify fun r => hG.register r u id) fun _ => .pure id
    · exact .fail _

lemma Guard.writeLine (id : Nat) (line : List Char) : Guards P E (writeLine id line) := by
  refine .get_bind fun r _ => ?_
  split
  · split
    · refine .bind (hG.updateChild id fun _ => rfl) fun _ => ?_
      split
      · exact .emit (hG.quiet _ fun h => h)
      · exact .fail _
      · exact .fail _
    · exact .fail _
  · exact .pure ()

lemma Guard.send (u : String) (q : Query) : Guards P E (send u q) := by
  refine .get_bind fun r _ => ?_
  split
  · exact .bind (hG.log _) fun _ => .pure none
  · exact .bind (hG.updateJob _ _) fun _ => .bind (.ofExcept _) fun line =>
      .bind (hG.writeLine _ line) fun _ => .bind (hG.log _) fun _ => .pure _

lemma Guard.reap (id : Nat) : Guards P E (reap id) := by
  refine .get_bind fun r _ => ?_
  split
  · refine .bind (hG.updateJob id _) fun _ => ?_
    split
    · refine .bind (hG.log _) fun _ => .bind (hG.updateChild id fun c => ?_) fun _ => ?_
      · rw [Child.kill]
        split <;> rfl
      · split
        · exact hG.log _
        · exact .pure ()
    · exact .pure ()
  · exact .pure ()

lemma Guard.sendOrReport (u : String) (q : Query) : Guards P E (Bridge.sendOrReport u q) := by
  refine .catching (hG.send u q) fun f rescue hrescue => ?_
  split at hrescue
  · cases hrescue
    refine .get_bind fun r _ => ?_
    split
    · exact .bind (hG.transportError u _) fun _ => .pure none
    · exact .bind (hG.discard _) fun _ => .bind (hG.transportError u _) fun _ => .pure none
  · cases hrescue

lemma Guard.changeDocument (u text : String) : Guards P E (Bridge.changeDocument u text) := by
  refine .get_bind fun r _ => ?_
  split
  · exact .bind (hG.log _) fun _ => .pure none
  · refine .bind (hG.onSession _ () fun s => ?_) fun _ => .bind (hG.sendOrReport u _) fun n => ?_
    · have hvisible : visible (Session.clear.run s).trace
          = [.publish s.uri [], .statusClear s.uri].map .event := rfl
      exact not_isSpawn_of_visible hvisible
    · split
      · exact .pure none
      · exact .bind (hG.updateJob _ _) fun _ => .pure _

lemma Guard.startSession (u : String) {path : Path}
    (hspawn : ∀ r, P r → ∀ id,
      E (.spawned id (r.config.command path.name) path.parent.toString)) :
    Guards P E (Bridge.startSession u path) := by
  refine .catching (.bind (hG.openSession u hspawn) fun _ => .pure _) fun f rescue hrescue => ?_
  split at hrescue
  · cases hrescue
    exact .bind (hG.transportError u _) fun _ => .pure none
  · cases hrescue

lemma Guard.openDocument (u text : String) {path : Path}
    (hspawn : ∀ r, P r → ∀ id,
      E (.spawned id (r.config.command path.name) path.parent.toString)) :
    Guards P E (Bridge.openDocument u text path) := by
  refine .bind (hG.log _) fun _ => .bind (hG.startSession u hspawn) fun id => ?_
  split
  · exact .pure none
  · refine .bind (hG.sendOrReport u _) fun n => ?_
    split
    · exact .pure none
    · exact .bind (hG.changeDocument u text) fun _ => .pure _

lemma Guard.closeDocument (u : String) : Guards P E (Bridge.closeDocument u) :=
  .bind (hG.log _) fun _ => hG.close u

lemma Guard.handleOutput [Limits] (id : Nat) (text : List Char) :
    Guards P E (Bridge.handleOutput id text) := by
  refine .get_bind fun r _ => ?_
  split
  · exact .bind (hG.onSession id [] fun _ _ => Session.not_isSpawn_of_mem_feed) fun _ => .pure ()
  · exact .pure ()

lemma Guard.handleExit [Limits] (id : Nat) (code : Option Int) :
    Guards P E (Bridge.handleExit id code) := by
  refine .get_bind fun r _ => ?_
  split
  · refine .bind (hG.onSession id [] fun _ _ => Session.not_isSpawn_of_mem_finish) fun _ =>
      .bind (hG.discard id) fun found => ?_
    split
    · exact .bind (hG.transportError _ _) fun _ => .pure ()
    · exact .pure ()
  · exact .pure ()

end Operations

lemma Stable.closeAll {P : Registry → Prop} (hP : Stable P) : closeAll.Keeps P :=
  hP.guard.closeAll.keeps

end Registry

namespace Bridge

open Registry

/-- Whether closing standard input has no fault behind a step if it had none before. Only faults
that nobody handles count, so an error of the operating system is none. -/
def Step.IsClean : Step → Prop
  | .world change => ∀ id c, c.closeFault? = none → (change id c).closeFault? = none
  | _ => True

lemma keeps_step [Limits] {P : Registry → Prop} (hP : Lasting P) {st : Step} (hst : st.IsClean) :
    st.act.Keeps P := by
  have hG := hP.guard
  refine Act.Guards.keeps (E := fun _ => True) ?_
  cases st with
  | openDocument u text path =>
    cases path with
    | some path => exact .map (hG.openDocument u text fun _ _ _ => trivial) _
    | none =>
      exact .map (.bind (.ofExcept _) fun _ => hG.openDocument u text fun _ _ _ => trivial) _
  | changeDocument u text => exact .map (hG.changeDocument u text) _
  | closeDocument u => exact .map (hG.closeDocument u) _
  | shutdown => exact .map hG.closeAll _
  | output id text => exact .map (hG.handleOutput id text) _
  | exit id code => exact .map (hG.handleExit id code) _
  | reap id => exact .map (hG.reap id) _
  | plan p => exact .map (.modify fun r => hP.plan r p) _
  | world change => exact .map (.modify fun r => hP.world r change hst) _

end Bridge

namespace Registry

/-! ### Properties -/

lemma stable_plan (p : SpawnPlan) : Stable (fun r => r.plan = p) where
  updateSlot _ _ _ _ h := h
  unregister _ _ h := h
  register _ _ _ h := h
  dismiss _ h := h
  extend _ h := h

lemma lasting_config (config : Config) : Lasting (fun r => r.config = config) where
  updateSlot _ _ _ _ h := h
  unregister _ _ h := h
  register _ _ _ h := h
  dismiss _ h := h
  extend _ h := h
  plan _ _ h := h
  world _ _ _ h := h

/-- Slots are not given up. -/
lemma lasting_length (n : Nat) : Lasting (fun r => n ≤ r.slots.length) where
  updateSlot r id f _ h := by
    rw [updateSlot, List.length_modify]
    exact h
  unregister _ _ h := h
  register _ _ _ h := h
  dismiss _ h := h
  extend r h := by
    rw [extend, List.length_append]
    exact Nat.le_add_right_of_le h
  plan _ _ h := h
  world r change _ h := by
    rw [mapChildren, List.length_mapIdx]
    exact h

lemma nodup_unregister {r : Registry} (u : String) (h : (r.registered.map (·.1)).Nodup) :
    ((r.unregister u).registered.map (·.1)).Nodup :=
  h.sublist (List.filter_sublist.map _)

/-- No document is registered twice. -/
lemma lasting_keys : Lasting (fun r => (r.registered.map (·.1)).Nodup) where
  updateSlot _ _ _ _ h := h
  unregister r u h := nodup_unregister u h
  register r u id h := by
    rw [register, List.map_append, List.nodup_append]
    refine ⟨nodup_unregister u h, List.nodup_singleton _, fun v hv w hw => ?_⟩
    obtain ⟨e, he, rfl⟩ := List.mem_map.1 hv
    rw [unregister, List.mem_filter] at he
    obtain rfl := List.mem_singleton.1 hw
    exact of_decide_eq_true he.2
  dismiss _ _ := List.nodup_nil
  extend _ h := h
  plan _ _ h := h
  world _ _ _ h := h

/-- Closing standard input has no fault. -/
lemma lasting_clean : Lasting (fun r => ∀ sl ∈ r.slots, sl.child.closeFault? = none) where
  updateSlot r id f hf h sl hsl := by
    obtain ⟨j, hj⟩ := List.mem_iff_getElem?.1 hsl
    rw [getElem?_updateSlot] at hj
    split at hj
    · obtain ⟨sl₀, hsl₀, rfl⟩ := Option.map_eq_some_iff.1 hj
      rw [hf]
      exact h sl₀ (List.mem_of_getElem? hsl₀)
    · exact h sl (List.mem_of_getElem? hj)
  unregister _ _ h := h
  register _ _ _ h := h
  dismiss _ h := h
  extend r h sl hsl := by
    rcases List.mem_append.1 hsl with hsl | hsl
    · exact h sl hsl
    · rw [List.mem_singleton.1 hsl]
      exact (isKept_plan r.plan).2
  plan _ _ h := h
  world r change hchange h sl hsl := by
    obtain ⟨j, hj, rfl⟩ := List.mem_mapIdx.1 hsl
    exact hchange j _ (h _ (List.getElem_mem hj))

/-- Each document is registered once and has a session of its own, and every pipe can be closed. -/
structure Orderly (r : Registry) : Prop where
  keys : (r.registered.map (·.1)).Nodup
  serves : r.Serves
  clean : ∀ sl ∈ r.slots, sl.child.closeFault? = none

lemma Orderly.closeFault?_eq_none {r : Registry} (h : r.Orderly) {id : Nat} {s : Session}
    {c : Child} (hs : r.session? id = some s) (hc : r.child? id = some c) :
    c.closeFault? = none := by
  obtain ⟨job, -, hslot⟩ := exists_slot_of_session hs hc
  exact h.clean _ (List.mem_of_getElem? hslot)

lemma orderly_start (config : Config) : Orderly { config } where
  keys := List.nodup_nil
  serves := (Bridge.standing_start config).serves
  clean _ h := by cases h

lemma Orderly.step [Limits] {r : Registry} (h : r.Orderly) {st : Bridge.Step} (hst : st.IsClean) :
    (st.act.run r).state.Orderly where
  keys := Bridge.keeps_step lasting_keys hst r h.keys
  serves := (Bridge.course_step h.serves st).serves h.serves
  clean := Bridge.keeps_step lasting_clean hst r h.clean

end Registry

namespace Bridge

open Act Registry

/-! ### Processes -/

/-- Whether an effect is no start of a process, or that of one for a document: with the command of a
configuration for the name of its file, in the directory of its file. -/
def Launches (c : Config) (uri : String) (e : Effect) : Prop :=
  ∀ id command directory, e = .spawned id command directory →
    ∃ path, Uri.toPath uri = .ok path ∧ command = c.command path.name ∧
      directory = path.parent.toString

lemma guards_openUri (c : Config) (uri text : String) :
    Guards (fun r => r.config = c) (Launches c uri) (openUri uri text) := by
  have hG : Guard (fun r => r.config = c) (Launches c uri) :=
    { (lasting_config c).toStable with
      quiet := by
        rintro e he id command directory rfl
        exact absurd trivial he }
  rw [openUri]
  cases hpath : Uri.toPath uri with
  | error e => exact Guards.fail (Fault.uri e)
  | ok path =>
    change Guards _ _ (openDocument uri text path)
    refine hG.openDocument uri text ?_
    rintro r rfl id _ _ _ ⟨⟩
    exact ⟨path, hpath, rfl, rfl⟩

end Bridge

end ProverLink
