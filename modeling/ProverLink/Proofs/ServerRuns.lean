import ProverLink.Proofs.ConfigFiles
import ProverLink.Proofs.Upkeep
import ProverLink.Server

/-!
# The configuration of the sessions

A server may load its configuration again and again, before and after it is asked about documents.
The sessions have the one that was in force when it was first asked about a document: what is loaded
later concerns no process.
-/

namespace ProverLink

open Act

namespace Act

/-! ### What stays in the trace -/

lemma mem_trace_bind {σ α β : Type} {act : Act σ α} {next : α → Act σ β} {s : σ}
    {e : Effect} (he : e ∈ (act.run s).trace) : e ∈ ((act >>= next).run s).trace := by
  cases hr : (act.run s).result with
  | error f => rwa [run_bind_error _ _ _ hr]
  | ok a =>
    rw [run_bind_ok _ _ _ hr]
    exact List.mem_append_left _ he

lemma mem_trace_catching {σ α : Type} {act : Act σ α} {handler : Fault → Option (Act σ α)}
    {s : σ} {e : Effect} (he : e ∈ (act.run s).trace) :
    e ∈ ((act.catching handler).run s).trace := by
  cases hr : (act.run s).result with
  | ok a => rwa [run_catching_ok _ _ hr]
  | error f =>
    cases hf : handler f with
    | none => rwa [run_catching_unhandled _ _ hr hf]
    | some rescue =>
      rw [run_catching_handled _ _ hr hf]
      exact List.mem_append_left _ he

end Act

namespace Registry

/-! ### Threads -/

/-- A listener that keeps a property and has only allowed effects. -/
structure Heeds (P : Registry → Prop) (E : Effect → Prop) (l : Listener) : Prop where
  output : ∀ id text, Guards P E (l.output id text)
  exit : ∀ id code, Guards P E (l.exit id code)

section Threads

variable {P : Registry → Prop} {E : Effect → Prop} (hG : Guard P E) {l : Listener}
  (hl : Heeds P E l)

section Output

include hl

lemma Heeds.hear (id : Nat) (text : List Char) : Guards P E (hear l id text) := by
  rw [Registry.hear]
  split
  · exact .pure ()
  · exact hl.output id text

include hG

lemma Guard.leave (id : Nat) (code : Option Int) : Guards P E (leave l id code) := by
  refine .bind (hG.updateJob id _) fun _ => .bind (hl.exit id code).attempt fun result => ?_
  cases result with
  | ok _ => exact .pure ()
  | error f => exact .emit (hG.quiet _ fun h => h)

lemma Guard.breakOff (id : Nat) (uri : String) : Guards P E (breakOff l id uri) :=
  .bind (hG.log _) fun _ => hG.leave hl id none

lemma Guard.conclude (id : Nat) (uri : String) (d : Utf8.Decoder) :
    Guards P E (conclude l id uri d) := by
  refine .bind (hl.hear id _).attempt fun result => ?_
  cases result with
  | error _ => exact hG.breakOff hl id uri
  | ok _ => exact .get_bind fun _ _ => hG.leave hl id _

lemma Guard.consume (id : Nat) (uri : String) (d : Utf8.Decoder) (arrived : List Arrival) :
    Guards P E (consume l id uri d arrived) := by
  induction arrived generalizing d with
  | nil => exact hG.updateJob id _
  | cons a rest ih =>
    cases a with
    | bytes b =>
      refine .bind (hl.hear id _).attempt fun result => ?_
      cases result with
      | ok _ => exact ih _
      | error _ => exact hG.breakOff hl id uri
    | error e =>
      cases e with
      | other _ => exact hG.breakOff hl id uri
      | _ => exact .bind (hG.log _) fun _ => hG.conclude hl id uri d
    | finish => exact hG.conclude hl id uri d

lemma Guard.readOutput (id : Nat) : Guards P E (readOutput l id) := by
  refine .get_bind fun r _ => ?_
  split
  · exact .bind (hG.updateChild id fun _ => rfl) fun _ => hG.consume hl id _ _ _
  · exact .pure ()

end Output

include hG

lemma Guard.consumeErrors (id : Nat) (uri file : String) (arrived : List Arrival) :
    Guards P E (consumeErrors id uri file arrived) := by
  induction arrived with
  | nil => exact .pure ()
  | cons a rest ih =>
    cases a with
    | bytes b =>
      rw [Registry.consumeErrors]
      split
      · exact ih
      · exact .bind (hG.log _) fun _ => ih
    | error e =>
      cases e with
      | other _ => exact .bind (hG.updateJob id _) fun _ => .emit (hG.quiet _ fun h => h)
      | _ => exact .bind (hG.updateJob id _) fun _ => hG.log _
    | finish => exact hG.updateJob id _

lemma Guard.readErrors (id : Nat) : Guards P E (readErrors id) := by
  refine .get_bind fun r _ => ?_
  split
  · exact .bind (hG.updateChild id fun _ => rfl) fun _ => hG.consumeErrors id _ _ _
  · exact .pure ()

lemma Guard.read (hl : Heeds P E l) (id : Nat) : Guards P E (read l id) :=
  .bind (hG.readOutput hl id) fun _ => hG.readErrors id

lemma Guard.runCall [Limits] (c : Call) : Guards P E (Server.runCall c) := by
  refine .bind (Guards.attempt ?_) fun result => ?_
  · cases c with
    | output id text => exact hG.handleOutput id text
    | exit id code => exact hG.handleExit id code
  · cases result with
    | ok _ => exact .pure ()
    | error f => exact .emit (hG.quiet _ fun h => h)

end Threads

end Registry

namespace Bridge

/-! ### Opening -/

/-- A document that has no session gets a process, if processes can be started. -/
lemma spawned_mem_openDocument {r : Registry} {u : String} (hfind : r.find? u = none)
    (hplan : r.plan.error = none) (text : String) (path : Path) :
    .spawned r.slots.length (r.config.command path.name) path.parent.toString
      ∈ ((openDocument u text path).run r).trace := by
  have hclose : (Registry.close u).run r = { result := .ok false, state := r } := by
    rw [Registry.close, Act.run_get_bind, hfind]
    rfl
  have hspawn (command : List String) (directory : Path) :
      .spawned r.slots.length command directory.toString
        ∈ ((Registry.spawn command directory).run r).trace := by
    rw [Registry.spawn, Act.run_get_bind, hplan]
    exact List.mem_singleton_self _
  have hopen : .spawned r.slots.length (r.config.command path.name) path.parent.toString
      ∈ ((Registry.openSession u path.parent path.name).run r).trace := by
    rw [Registry.openSession, Act.run_bind_ok (a := false) _ _ _ (by rw [hclose]), hclose]
    exact List.mem_cons_of_mem _ (Act.mem_trace_bind (hspawn _ _))
  exact List.mem_cons_of_mem _
    (Act.mem_trace_bind (Act.mem_trace_catching (Act.mem_trace_bind hopen)))

end Bridge

namespace Server

open Registry

/-! ### Steps -/

/-- Who listens to the checkers, with and without an event loop. -/
def listener [Limits] (loop : Bool) : Listener := if loop then queued else inline

/-- One step of a server. -/
inductive Step where
  | initialized (root : Option Path)
  | configure (path : Option Path)
  | didOpen (uri text : String)
  | didChange (uri text : String)
  | didClose (uri : String)
  | shutdown
  /-- The readers of a slot have their turn. -/
  | read (loop : Bool) (slot : Nat)
  /-- The reaper of a slot has its turn. -/
  | reap (slot : Nat)
  /-- The event loop has its turn. -/
  | turn
  /-- From now on processes start in another way. -/
  | plan (p : SpawnPlan)
  /-- The processes change. -/
  | world (change : Nat → Child → Child)
  /-- Files and environment change. -/
  | surroundings (files : FileTree) (environment : Environment)

namespace Step

/-- What is done in a step. -/
def act [Limits] : Step → Act Server Unit
  | .initialized root => Server.initialized root
  | .configure path => Server.configure path
  | .didOpen uri text => Server.didOpen uri text
  | .didChange uri text => Server.didChange uri text
  | .didClose uri => Server.didClose uri
  | .shutdown => Server.shutdown
  | .read loop id => onRegistry (Registry.read (listener loop) id)
  | .reap id => onRegistry (Registry.reap id)
  | .turn => onRegistry Server.turn
  | .plan p => onRegistry (Act.modify fun r => { r with plan := p })
  | .world change => onRegistry (Act.modify (mapChildren change))
  | .surroundings files environment => Act.modify fun s => { s with files, environment }

/-- Whether a step asks the server about documents. -/
def isDocument : Step → Bool
  | .didOpen .. | .didChange .. | .didClose _ | .shutdown => true
  | _ => false

/-- Whether a step has the server load its configuration. -/
def isLoad : Step → Bool
  | .initialized _ | .configure _ => true
  | _ => false

/-- The configuration that is loaded in a step, if one is and there is no fault. -/
def loaded? [Limits] (s : Server) : Step → Option Config
  | .initialized root => (Config.load s.files s.environment root s.configPath).result.toOption
  | .configure path => (Config.load s.files s.environment none path).result.toOption
  | _ => none

end Step

/-! ### The configuration of the sessions -/

/-- The configuration that the sessions have, or that they would be given now. -/
def sessionConfig (s : Server) : Config := if s.started then s.registry.config else s.config

/-- Whether an effect of a step is either no start of a process, or one for a document that is
opened, with the command of a configuration. -/
def Step.Allows (c : Config) (st : Step) (e : Effect) : Prop :=
  ∀ id command directory, e = .spawned id command directory →
    ∃ uri text path, st = .didOpen uri text ∧ Uri.toPath uri = .ok path ∧
      command = c.command path.name ∧ directory = path.parent.toString

lemma guard_allows (c : Config) (d : Config) (st : Step) :
    Guard (fun r => r.config = d) (st.Allows c) where
  __ := (lasting_config d).toStable
  quiet e he id command directory hspawn := by
    subst hspawn
    exact absurd trivial he

lemma allows_of_notices {c : Config} {st : Step} {notices : List Notice} :
    ∀ e ∈ notices.map Effect.notice, st.Allows c e := by
  rintro e he id command directory rfl
  obtain ⟨n, -, hn⟩ := List.mem_map.1 he
  cases hn

/-- A server whose sessions have their configuration. -/
def begun (s : Server) : Server :=
  { s with started := true, registry := { s.registry with config := s.sessionConfig } }

lemma run_begin (s : Server) : begin.run s = { result := .ok (), state := s.begun } := by
  rw [begin, Act.run_modify, begun, sessionConfig]
  cases hs : s.started with
  | false => rfl
  | true =>
    rw [if_pos rfl, if_pos rfl, ← hs]

/-- The sessions of a server have their configuration, and the server has one of its own. -/
structure HasBegun (config sessions : Config) (s : Server) : Prop where
  started : s.started = true
  config : s.config = config
  sessions : s.registry.config = sessions

lemma guards_onRegistry {α : Type} {config c : Config} {E : Effect → Prop} {act : Act Registry α}
    (hact : Guards (fun r => r.config = c) E act) :
    Guards (HasBegun config c) E (onRegistry act) :=
  hact.focus (fun _ hs => hs.sessions) fun _ _ hs hr => ⟨hs.started, hs.config, hr⟩

section Runs

variable [Limits]

/-! ### What steps do -/

/-- The server after some steps. A fault ends the step that has it, and the next one follows. -/
def after : List Step → Server → Server
  | [], s => s
  | st :: rest, s => after rest (st.act.run s).state

lemma after_append (xs ys : List Step) (s : Server) :
    after (xs ++ ys) s = after ys (after xs s) := by
  induction xs generalizing s with
  | nil => rfl
  | cons st rest ih => exact ih _

/-- What every step of a kind keeps is kept by all steps of that kind. -/
lemma after_of_steps {P : Server → Prop} {steps : List Step}
    (hstep : ∀ st ∈ steps, st.act.Keeps P) {s : Server} (hs : P s) : P (after steps s) := by
  induction steps generalizing s with
  | nil => exact hs
  | cons st rest ih =>
    exact ih (fun st' hst' => hstep st' (.tail _ hst')) (hstep st (.head _) s hs)

/-- The configuration that was loaded last in some steps, or that the server had before them if none
was loaded. -/
inductive InForce (s₀ : Server) : List Step → Config → Prop where
  | initial : InForce s₀ [] s₀.config
  | loaded {front : List Step} {st : Step} {c : Config} :
    st.loaded? (after front s₀) = some c → InForce s₀ (front ++ [st]) c
  | kept {front : List Step} {st : Step} {c : Config} :
    InForce s₀ front c → st.loaded? (after front s₀) = none → InForce s₀ (front ++ [st]) c

/-- All that a step does to the configurations, and which processes it starts. -/
structure Follows (st : Step) (s : Server) (o : Outcome Server Unit) : Prop where
  started : o.state.started = (s.started || st.isDocument)
  config : o.state.config = (st.loaded? s).getD s.config
  sessions : o.state.registry.config
    = if st.isDocument then s.sessionConfig else s.registry.config
  allowed : ∀ e ∈ o.trace, st.Allows s.sessionConfig e

/-- Loading leaves notices, and changes the configuration unless there is a fault. -/
lemma run_load (root : Option Path) (s : Server) :
    let loaded := Config.load s.files s.environment root s.configPath
    ((load root).run s).state = { s with config := loaded.result.toOption.getD s.config } ∧
      ((load root).run s).trace = loaded.notices.map .notice := by
  have hlog (notices : List Notice) : (Act.each Act.log notices).run s
      = { result := .ok (), state := s, trace := notices.map .notice } := by
    induction notices with
    | nil => rfl
    | cons n rest ih =>
      rw [Act.each_cons, Act.run_log_bind, ih]
      rfl
  rw [load, Act.run_get_bind]
  dsimp only
  rw [Act.run_bind_ok (a := ()) _ _ _ (by rw [hlog]), hlog]
  cases (Config.load s.files s.environment root s.configPath).result with
  | ok c => exact ⟨rfl, List.append_nil _⟩
  | error f => exact ⟨rfl, List.append_nil _⟩

lemma follows_initialized (root : Option Path) (s : Server) :
    Follows (.initialized root) s ((Server.initialized root).run s) := by
  obtain ⟨hstate, htrace⟩ := run_load root s
  rw [Server.initialized]
  cases hr : ((load root).run s).result with
  | error f =>
    rw [Act.run_bind_error _ _ _ hr, hstate, htrace]
    exact ⟨(Bool.or_false _).symm, rfl, rfl, allows_of_notices⟩
  | ok _ =>
    rw [Act.run_bind_ok _ _ _ hr, hstate, htrace]
    refine ⟨(Bool.or_false _).symm, rfl, rfl, List.forall_mem_append.2 ⟨allows_of_notices, ?_⟩⟩
    exact @allows_of_notices _ _ [_]

lemma follows_configure (path : Option Path) (s : Server) :
    Follows (.configure path) s ((Server.configure path).run s) := by
  obtain ⟨hstate, htrace⟩ := run_load none { s with configPath := path }
  rw [Server.configure, Act.run_modify_bind]
  refine ⟨?_, ?_, ?_, ?_⟩
  · rw [hstate]
    exact (Bool.or_false _).symm
  · rw [hstate]
    rfl
  · rw [hstate]
    rfl
  · rw [htrace]
    exact allows_of_notices

lemma follows_of_begin {st : Step} {s : Server} {next : Act Server Unit}
    (hst : st.isDocument = true) (hload : st.loaded? s = none)
    (hrun : st.act = begin >>= fun _ => next)
    (hnext : Guards (HasBegun s.config s.sessionConfig) (st.Allows s.sessionConfig) next) :
    Follows st s (st.act.run s) := by
  obtain ⟨hstate, htrace⟩ := hnext s.begun ⟨rfl, rfl, rfl⟩
  rw [hrun, Act.run_bind_ok (a := ()) _ _ _ (by rw [run_begin]), run_begin]
  refine ⟨?_, ?_, ?_, htrace⟩
  · rw [hst, Bool.or_true]
    exact hstate.started
  · rw [hload]
    exact hstate.config
  · rw [hst]
    exact hstate.sessions

/-- An act on the sessions that starts no process. -/
lemma follows_of_onRegistry {st : Step} {s : Server} {act : Act Registry Unit}
    (hst : st.isDocument = false) (hload : st.loaded? s = none)
    (hact : Guards (fun r => r.config = s.registry.config) (st.Allows s.sessionConfig) act) :
    Follows st s ((onRegistry act).run s) := by
  obtain ⟨hstate, htrace⟩ := hact s.registry rfl
  refine ⟨?_, ?_, ?_, htrace⟩
  · rw [hst, Bool.or_false]
    rfl
  · rw [hload]
    rfl
  · rw [hst]
    exact hstate

lemma heeds_listener {c d : Config} {st : Step} (loop : Bool) :
    Heeds (fun r => r.config = d) (st.Allows c) (listener loop) := by
  have hG := guard_allows c d st
  cases loop with
  | true => exact ⟨fun _ _ => .modify fun _ h => h, fun _ _ => .modify fun _ h => h⟩
  | false =>
    exact ⟨fun id text => .bind (hG.log _) fun _ => hG.handleOutput id text,
      fun id code => .bind (hG.log _) fun _ => hG.handleExit id code⟩

/-- All that a step does to the configurations, and which processes it starts. -/
lemma follows_step (st : Step) (s : Server) : Follows st s (st.act.run s) := by
  -- what is about documents begins with `begin`; the threads go on with what the sessions have
  have hG := guard_allows s.sessionConfig s.sessionConfig st
  have hG' := guard_allows s.sessionConfig s.registry.config st
  cases st with
  | initialized root => exact follows_initialized root s
  | configure path => exact follows_configure path s
  | didOpen uri text =>
    refine follows_of_begin rfl rfl rfl (.bind (guards_onRegistry ?_) fun _ => .pure ())
    refine (Bridge.guards_openUri s.sessionConfig uri text).mono ?_
    intro e he id command directory hspawn
    obtain ⟨path, hpath, hcommand, hdirectory⟩ := he id command directory hspawn
    exact ⟨uri, text, path, rfl, hpath, hcommand, hdirectory⟩
  | didChange uri text =>
    exact follows_of_begin rfl rfl rfl
      (.bind (guards_onRegistry (hG.changeDocument uri text)) fun _ => .pure ())
  | didClose uri =>
    exact follows_of_begin rfl rfl rfl
      (.bind (guards_onRegistry (hG.closeDocument uri)) fun _ => .pure ())
  | shutdown => exact follows_of_begin rfl rfl rfl (guards_onRegistry hG.closeAll)
  | read loop id => exact follows_of_onRegistry rfl rfl (hG'.read (heeds_listener loop) id)
  | reap id => exact follows_of_onRegistry rfl rfl (hG'.reap id)
  | turn =>
    refine follows_of_onRegistry rfl rfl ?_
    exact .get_bind fun _ _ => .bind (.modify fun _ h => h) fun _ => .each hG'.runCall _
  | plan p => exact follows_of_onRegistry rfl rfl (.modify fun _ h => h)
  | world change => exact follows_of_onRegistry rfl rfl (.modify fun _ h => h)
  | surroundings files environment =>
    exact ⟨(Bool.or_false _).symm, rfl, rfl, fun _ he => (List.not_mem_nil he).elim⟩

/-! ### Runs -/

lemma config_after_concat (front : List Step) (st : Step) (s₀ : Server) :
    (after (front ++ [st]) s₀).config
      = (st.loaded? (after front s₀)).getD (after front s₀).config := by
  rw [after_append]
  exact (follows_step st _).config

/-- The configuration of a server is the one in force. -/
lemma inForce_config (s₀ : Server) (steps : List Step) :
    InForce s₀ steps (after steps s₀).config := by
  induction steps using List.reverseRecOn with
  | nil => exact .initial
  | append_singleton front st ih =>
    rw [config_after_concat]
    cases hload : st.loaded? (after front s₀) with
    | none => exact .kept ih hload
    | some c => exact .loaded hload

/-- Only one configuration is in force. -/
lemma InForce.eq_config {s₀ : Server} {steps : List Step} {c : Config} (h : InForce s₀ steps c) :
    c = (after steps s₀).config := by
  induction h with
  | initial => rfl
  | loaded hload =>
    rw [config_after_concat, hload]
    rfl
  | kept _ hload ih =>
    rw [config_after_concat, hload]
    exact ih

lemma keeps_of_started (c : Config) (st : Step) :
    st.act.Keeps fun s => s.started = true ∧ s.registry.config = c := by
  rintro s ⟨hstarted, rfl⟩
  obtain ⟨hstarted', -, hsessions, -⟩ := follows_step st s
  refine ⟨by rw [hstarted', hstarted, Bool.true_or], ?_⟩
  rw [hsessions, sessionConfig, if_pos hstarted, ite_self]

lemma loaded?_eq_none {st : Step} (h : st.isLoad = false) (s : Server) : st.loaded? s = none := by
  cases st with
  | initialized _ => cases h
  | configure _ => cases h
  | _ => rfl

/-- The steps before the first that is about a document, and the others. -/
lemma after_eq (steps : List Step) (s₀ : Server) :
    after steps s₀
      = after (steps.dropWhile (!·.isDocument)) (after (steps.takeWhile (!·.isDocument)) s₀) := by
  rw [← after_append, List.takeWhile_append_dropWhile]

/-- The sessions have the configuration that the server has before it is first asked about a
document. -/
lemma sessionConfig_after {s₀ : Server} (hs₀ : s₀.started = false) (steps : List Step) :
    (after steps s₀).sessionConfig = (after (steps.takeWhile (!·.isDocument)) s₀).config := by
  have hfront : (after (steps.takeWhile (!·.isDocument)) s₀).started = false := by
    refine after_of_steps (P := fun s => s.started = false) (fun st hst s hs => ?_) hs₀
    have hdocument : st.isDocument = false := by simpa using List.mem_takeWhile_imp hst
    exact (follows_step st s).started.trans (Bool.or_eq_false_iff.2 ⟨hs, hdocument⟩)
  obtain ⟨rest, hrest⟩ : ∃ rest, steps.dropWhile (!·.isDocument) = rest := ⟨_, rfl⟩
  rw [after_eq, hrest]
  generalize after (steps.takeWhile _) s₀ = s at hfront ⊢
  have hconfig : s.sessionConfig = s.config := if_neg (by simp [hfront])
  cases rest with
  | nil => exact hconfig
  | cons st rest =>
    -- this step hands the configuration over, and from then on the sessions keep it
    have hdocument : st.isDocument = true := by
      simpa [hrest] using List.head?_dropWhile_not (!·.isDocument) steps
    obtain ⟨hstarted, -, hsessions, -⟩ := follows_step st s
    rw [hdocument, Bool.or_true] at hstarted
    rw [if_pos hdocument, hconfig] at hsessions
    obtain ⟨hstarted', hsessions'⟩ :=
      @after_of_steps _ _ rest (fun st _ => keeps_of_started s.config st) _ ⟨hstarted, hsessions⟩
    rw [after, sessionConfig, if_pos hstarted', hsessions']

lemma config_after_of_no_load {s₀ : Server} {steps : List Step}
    (h : ∀ st ∈ steps.dropWhile (!·.isDocument), st.isLoad = false) :
    (after steps s₀).config = (after (steps.takeWhile (!·.isDocument)) s₀).config := by
  rw [after_eq]
  refine after_of_steps (P := fun s => s.config = _) (fun st hst s hs => ?_) rfl
  refine (follows_step st s).config.trans ?_
  rw [loaded?_eq_none (h st hst)]
  exact hs

/-- The processes of all documents are started with one configuration: the one that was in force
when the server was first asked about a document. It is that of the server unless another one was
loaded since. -/
theorem sessions_start_with_first_configuration {s₀ : Server} (hs₀ : s₀.started = false)
    (steps : List Step) :
    ∃ c, InForce s₀ (steps.takeWhile (!·.isDocument)) c ∧
      ((∀ st ∈ steps.dropWhile (!·.isDocument), st.isLoad = false) → (after steps s₀).config = c) ∧
      (∀ (st : Step) id command directory,
        .spawned id command directory ∈ (st.act.run (after steps s₀)).trace →
        ∃ uri text path, st = .didOpen uri text ∧ Uri.toPath uri = .ok path ∧
          command = c.command path.name ∧ directory = path.parent.toString) ∧
      ∀ uri text path, Uri.toPath uri = .ok path → (after steps s₀).registry.find? uri = none →
        (after steps s₀).registry.plan.error = none →
        .spawned (after steps s₀).registry.slots.length (c.command path.name) path.parent.toString
          ∈ ((Step.didOpen uri text).act.run (after steps s₀)).trace := by
  have hsessions := sessionConfig_after hs₀ steps
  refine ⟨_, inForce_config s₀ _, config_after_of_no_load, ?_, ?_⟩
  · intro st id command directory hspawn
    rw [← hsessions]
    exact (follows_step st _).allowed _ hspawn id command directory rfl
  · intro uri text path hpath hfind hplan
    rw [← hsessions]
    generalize after steps s₀ = s at hfind hplan ⊢
    -- `begin` leaves the documents and the plan as they are
    have hopen : .spawned s.begun.registry.slots.length (s.sessionConfig.command path.name)
        path.parent.toString ∈ ((Bridge.openUri uri text).run s.begun.registry).trace := by
      rw [Bridge.openUri, hpath]
      exact Bridge.spawned_mem_openDocument (r := s.begun.registry) hfind hplan text path
    rw [Step.act, didOpen, Act.run_bind_ok (a := ()) _ _ _ (by rw [run_begin]), run_begin]
    exact Act.mem_trace_bind hopen

/-! ### A configuration that comes late -/

/-- A server without files whose environment names an executable. -/
def withExecutable (name : String) : Server :=
  { files := {}, environment := [(Config.executableVariable, name)] }

/-- Without a file the environment decides. -/
lemma load_bare (env : Environment) :
    (Config.load {} env none none).result = .ok (Config.ofEnvironment env) := by
  refine Config.load_of_hasNoSection ?_ (.unread (.notFound ⟨.slash, [Config.fileName]⟩) ?_)
  · change ∀ n ∈ [Config.fileName], '\x00' ∉ n.toList
    decide +kernel
  · have hfind : ({} : FileTree).find ⟨.slash, [Config.fileName]⟩ = .missing := by decide +kernel
    change ({} : FileTree).read ⟨.slash, [Config.fileName]⟩ = _
    rw [FileTree.read, hfind]

/-- The state behind a configuration that is loaded without a file. -/
lemma state_configure {s : Server} (hs : s.files = {}) :
    ((Step.configure none).act.run s).state
      = { s with configPath := none, config := Config.ofEnvironment s.environment } := by
  have hstate := (run_load none { s with configPath := none }).1
  rw [Step.act, configure, Act.run_modify_bind, hstate]
  dsimp only
  rw [hs, load_bare]
  rfl

/-- What processes were started with. -/
def commands (trace : List Effect) : List (List String) :=
  trace.filterMap fun
    | .spawned _ command _ => some command
    | _ => none

/-- The configuration is loaded, a document is closed, and the configuration is loaded again. -/
def reloads (name : String) : List Step :=
  [.configure none, .didClose "file:///a.fst",
   .surroundings {} [(Config.executableVariable, name)], .configure none]

lemma after_reloads (one two : String) :
    after (reloads two) (withExecutable one)
      = { files := {}, environment := [(Config.executableVariable, two)]
          config := Config.ofEnvironment [(Config.executableVariable, two)], started := true
          registry := { config := Config.ofEnvironment [(Config.executableVariable, one)] } } := by
  rw [reloads, after, state_configure rfl]
  change ((Step.configure none).act.run _).state = _
  rw [state_configure rfl]
  rfl

end Runs

/-- What was loaded the second time is not what the process is started with. -/
theorem session_after_reloads :
    (withExecutable "one").started = false ∧
      (after (reloads "two") (withExecutable "one")).config.executable = "two" ∧
      .spawned 0 ["one", "--ide", "b.fst"] "/"
        ∈ ((Step.didOpen "file:///b.fst" "x").act.run
            (after (reloads "two") (withExecutable "one"))).trace := by
  obtain ⟨c, hforce, -, -, hopens⟩ :=
    @sessions_start_with_first_configuration _ (withExecutable "one") rfl (reloads "two")
  have hcommand : c.command "b.fst" = ["one", "--ide", "b.fst"] := by
    rw [hforce.eq_config]
    change ((Step.configure none).act.run _).state.config.command _ = _
    rw [state_configure rfl]
    decide +kernel
  have hpath : Uri.toPath "file:///b.fst" = .ok ⟨.slash, ["b.fst"]⟩ := by decide +kernel
  have hdirectory : (Path.parent ⟨.slash, ["b.fst"]⟩).toString = "/" := by decide +kernel
  rw [after_reloads] at hopens ⊢
  refine ⟨rfl, by decide +kernel, ?_⟩
  rw [← hcommand, ← hdirectory]
  exact hopens "file:///b.fst" "x" _ hpath rfl rfl

/-- A configuration that is loaded after a document was closed is not the one that the next process
is started with. -/
theorem later_configuration_starts_no_process :
    let s := after [.didClose "file:///a.fst", .configure none] (withExecutable "two")
    s.config.command "a.fst" = ["two", "--ide", "a.fst"] ∧
      commands ((Step.didOpen "file:///a.fst" "x").act.run s).trace
        = [["fstar.exe", "--ide", "a.fst"]] := by
  have hs : after [.didClose "file:///a.fst", .configure none] (withExecutable "two")
      = { files := {}, environment := [(Config.executableVariable, "two")]
          config := Config.ofEnvironment [(Config.executableVariable, "two")], started := true } :=
    state_configure rfl
  rw [hs]
  decide +kernel

end Server

end ProverLink
