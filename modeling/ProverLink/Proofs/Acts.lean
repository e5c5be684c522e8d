import Mathlib.Tactic.Common
import ProverLink.Act

/-!
# Running acts

Equations that run an act step by step, and two notions that later proofs use: the visible part of a
trace, which leaves out the log, and acts that commute with a change of the state.
-/

namespace ProverLink

attribute [ext] Outcome

/-! ### What can be seen without the log -/

/-- Whether an effect is seen by someone who does not read the log. -/
def Effect.isVisible : Effect → Bool
  | .notice _ => false
  | _ => true

/-- A trace without what only goes to the log. -/
def visible (trace : List Effect) : List Effect := trace.filter Effect.isVisible

@[simp] lemma visible_nil : visible [] = [] := rfl

@[simp] lemma visible_append (xs ys : List Effect) :
    visible (xs ++ ys) = visible xs ++ visible ys :=
  List.filter_append ..

@[simp] lemma visible_notice (n : Notice) (trace : List Effect) :
    visible (.notice n :: trace) = visible trace := rfl

@[simp] lemma visible_event (e : EditorEvent) (trace : List Effect) :
    visible (.event e :: trace) = .event e :: visible trace := rfl

@[simp] lemma visible_wrote (id : Nat) (line : List Char) (trace : List Effect) :
    visible (.wrote id line :: trace) = .wrote id line :: visible trace := rfl

@[simp] lemma visible_spawned (id : Nat) (command : List String) (directory : String)
    (trace : List Effect) :
    visible (.spawned id command directory :: trace)
      = .spawned id command directory :: visible trace := rfl

/-- The editor's share of an effect. -/
def Effect.event? : Effect → Option EditorEvent
  | .event e => some e
  | _ => none

/-- What the editor is told in a trace. -/
def events (trace : List Effect) : List EditorEvent := trace.filterMap Effect.event?

@[simp] lemma events_append (xs ys : List Effect) : events (xs ++ ys) = events xs ++ events ys :=
  List.filterMap_append ..

lemma events_visible (trace : List Effect) : events (visible trace) = events trace := by
  rw [events, events, visible, List.filterMap_filter]
  congr
  funext e
  cases e <;> rfl

lemma events_map_event (es : List EditorEvent) : events (es.map .event) = es := by
  induction es with
  | nil => rfl
  | cons e rest ih => exact congrArg (e :: ·) ih

namespace Act

variable {σ τ α β : Type}

/-! ### Equations -/

section Run

variable (act : Act σ α) (next : α → Act σ β) (s : σ)

@[simp] lemma run_pure (a : α) : (pure a : Act σ α).run s = { result := .ok a, state := s } := rfl

@[simp] lemma run_fail (f : Fault) :
    (fail f : Act σ α).run s = { result := .error f, state := s } := rfl

@[simp] lemma run_get : (get : Act σ σ).run s = { result := .ok s, state := s } := rfl

@[simp] lemma run_modify (g : σ → σ) :
    (modify g).run s = { result := .ok (), state := g s } := rfl

@[simp] lemma run_emit (e : Effect) :
    (emit e).run s = { result := .ok (), state := s, trace := [e] } := rfl

@[simp] lemma run_log (n : Notice) :
    (log n).run s = { result := .ok (), state := s, trace := [.notice n] } := rfl

@[simp] lemma run_tell (e : EditorEvent) :
    (tell e).run s = { result := .ok (), state := s, trace := [.event e] } := rfl

@[simp] lemma run_ofExcept_ok (a : α) :
    (ofExcept (.ok a) : Act σ α).run s = { result := .ok a, state := s } := rfl

@[simp] lemma run_ofExcept_error (f : Fault) :
    (ofExcept (.error f) : Act σ α).run s = { result := .error f, state := s } := rfl

@[simp] lemma run_attempt :
    act.attempt.run s
      = { result := .ok (act.run s).result, state := (act.run s).state,
          trace := (act.run s).trace } := rfl

lemma run_bind_ok {a : α} (h : (act.run s).result = .ok a) :
    (act >>= next).run s
      = { (next a).run (act.run s).state with
          trace := (act.run s).trace ++ ((next a).run (act.run s).state).trace } := by
  show Act.bind act next s = _
  simp only [run] at h
  simp only [Act.bind, h, run]

lemma run_bind_error {f : Fault} (h : (act.run s).result = .error f) :
    (act >>= next).run s
      = { result := .error f, state := (act.run s).state, trace := (act.run s).trace } := by
  show Act.bind act next s = _
  simp only [run] at h
  simp only [Act.bind, h, run]

/-- What ends well has two parts that end well. -/
lemma exists_of_bind_ok {act : Act σ α} {next : α → Act σ β} {s : σ} {b : β}
    (h : ((act >>= next).run s).result = .ok b) :
    ∃ a, (act.run s).result = .ok a ∧ ((next a).run (act.run s).state).result = .ok b := by
  cases hr : (act.run s).result with
  | error f =>
    rw [run_bind_error act next s hr] at h
    cases h
  | ok a =>
    rw [run_bind_ok act next s hr] at h
    exact ⟨a, rfl, h⟩

@[simp] lemma run_pure_bind (a : α) : (pure a >>= next).run s = (next a).run s := rfl

@[simp] lemma run_get_bind (next : σ → Act σ β) : (get >>= next).run s = (next s).run s := rfl

@[simp] lemma run_modify_bind (g : σ → σ) (next : Unit → Act σ β) :
    (modify g >>= next).run s = (next ()).run (g s) := rfl

@[simp] lemma run_emit_bind (e : Effect) (next : Unit → Act σ β) :
    (emit e >>= next).run s
      = { (next ()).run s with trace := e :: ((next ()).run s).trace } := rfl

@[simp] lemma run_log_bind (n : Notice) (next : Unit → Act σ β) :
    (log n >>= next).run s
      = { (next ()).run s with trace := .notice n :: ((next ()).run s).trace } := rfl

@[simp] lemma run_tell_bind (e : EditorEvent) (next : Unit → Act σ β) :
    (tell e >>= next).run s
      = { (next ()).run s with trace := .event e :: ((next ()).run s).trace } := rfl

@[simp] lemma run_fail_bind (f : Fault) :
    ((fail f : Act σ α) >>= next).run s = { result := .error f, state := s } := rfl

@[simp] lemma run_attempt_bind (next : Except Fault α → Act σ β) :
    (act.attempt >>= next).run s
      = { (next (act.run s).result).run (act.run s).state with
          trace := (act.run s).trace
            ++ ((next (act.run s).result).run (act.run s).state).trace } := rfl

@[simp] lemma run_map (g : α → β) :
    (g <$> act).run s
      = { result := (act.run s).result.map g, state := (act.run s).state,
          trace := (act.run s).trace } := by
  show Act.bind act (fun a => Act.pure (g a)) s = _
  rcases h : act s with ⟨r, t, tr⟩
  cases r <;> simp [Act.bind, Act.pure, h, run, Except.map]

lemma run_catching_ok {handler : Fault → Option (Act σ α)} {a : α}
    (h : (act.run s).result = .ok a) : (act.catching handler).run s = act.run s := by
  simp only [run] at h
  simp only [catching, run, h]

lemma run_catching_unhandled {handler : Fault → Option (Act σ α)} {f : Fault}
    (h : (act.run s).result = .error f) (hf : handler f = none) :
    (act.catching handler).run s = act.run s := by
  simp only [run] at h
  simp only [catching, run, h, hf]

lemma run_catching_handled {handler : Fault → Option (Act σ α)} {f : Fault} {rescue : Act σ α}
    (h : (act.run s).result = .error f) (hf : handler f = some rescue) :
    (act.catching handler).run s
      = { rescue.run (act.run s).state with
          trace := (act.run s).trace ++ (rescue.run (act.run s).state).trace } := by
  simp only [run] at h
  simp only [catching, run, h, hf]

lemma each_cons (act : α → Act σ Unit) (a : α) (rest : List α) :
    each act (a :: rest) = act a >>= fun _ => each act rest := rfl

end Run

instance : LawfulMonad (Act σ) :=
  LawfulMonad.mk' (Act σ) (fun act => Act.bind_pure act) (fun a next => Act.pure_bind a next)
    (fun act next last => Act.bind_assoc act next last)

/-! ### Acts that commute with a change of the state -/

/-- An act does the same before and after a change of the state: it neither looks at what the change
concerns nor undoes it. -/
def Commutes (f : σ → σ) (act : Act σ α) : Prop :=
  ∀ s, act.run (f s) = { act.run s with state := f (act.run s).state }

namespace Commutes

variable {f : σ → σ}

lemma pure (a : α) : Commutes f (Pure.pure a : Act σ α) := fun _ => rfl

lemma fail (e : Fault) : Commutes f (Act.fail e : Act σ α) := fun _ => rfl

lemma emit (e : Effect) : Commutes f (Act.emit e) := fun _ => rfl

lemma log (n : Notice) : Commutes f (Act.log n) := fun _ => rfl

lemma tell (e : EditorEvent) : Commutes f (Act.tell e) := fun _ => rfl

lemma ofExcept (x : Except Fault α) : Commutes f (Act.ofExcept x) := by
  cases x <;> exact fun _ => rfl

lemma modify {g : σ → σ} (h : ∀ s, g (f s) = f (g s)) : Commutes f (Act.modify g) := by
  intro s
  simp only [run_modify, h]

lemma bind {act : Act σ α} {next : α → Act σ β} (hact : Commutes f act)
    (hnext : ∀ a, Commutes f (next a)) : Commutes f (act >>= next) := by
  intro s
  have hs := hact s
  cases hr : (act.run s).result with
  | error e =>
    rw [run_bind_error act next (f s) (by rw [hs]; exact hr), run_bind_error act next s hr, hs]
  | ok a =>
    rw [run_bind_ok act next (f s) (by rw [hs]; exact hr), run_bind_ok act next s hr, hs,
      hnext a]

lemma get_bind {next : σ → Act σ β} (hf : ∀ s, next (f s) = next s)
    (hnext : ∀ s, Commutes f (next s)) : Commutes f (Act.get >>= next) := by
  intro s
  rw [run_get_bind, run_get_bind, hf, hnext]

lemma map {act : Act σ α} (hact : Commutes f act) (g : α → β) : Commutes f (g <$> act) := by
  intro s
  simp only [run_map, hact s]

lemma attempt {act : Act σ α} (hact : Commutes f act) : Commutes f act.attempt := by
  intro s
  simp only [run_attempt, hact s]

lemma catching {act : Act σ α} {handler : Fault → Option (Act σ α)} (hact : Commutes f act)
    (hrescue : ∀ e rescue, handler e = some rescue → Commutes f rescue) :
    Commutes f (act.catching handler) := by
  intro s
  have hs := hact s
  cases hr : (act.run s).result with
  | ok a =>
    rw [run_catching_ok act (f s) (by rw [hs]; exact hr), run_catching_ok act s hr, hs]
  | error e =>
    have hr' : (act.run (f s)).result = .error e := by rw [hs]; exact hr
    cases he : handler e with
    | none => rw [run_catching_unhandled act (f s) hr' he, run_catching_unhandled act s hr he, hs]
    | some rescue =>
      rw [run_catching_handled act (f s) hr' he, run_catching_handled act s hr he, hs,
        hrescue e rescue he]

lemma each {act : α → Act σ Unit} (hact : ∀ a, Commutes f (act a)) (items : List α) :
    Commutes f (Act.each act items) := by
  induction items with
  | nil => exact Commutes.pure ()
  | cons a rest ih => exact Commutes.bind (hact a) fun _ => ih

end Commutes

end Act

end ProverLink
