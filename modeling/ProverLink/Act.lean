import ProverLink.Log.Notice

/-!
# Acts

An act changes a state, leaves a trace of what can be seen from outside, and gives a value or breaks
off with a fault. What was changed and traced before a fault stays.
-/

namespace ProverLink

/-- One thing that can be seen from outside. -/
inductive Effect where
  | notice (n : Notice)
  | event (e : EditorEvent)
  /-- A process was started. -/
  | spawned (child : Nat) (command : List String) (directory : String)
  /-- A process took a line on its standard input. -/
  | wrote (child : Nat) (line : List Char)
  /-- A text went to whoever listens to a registry. -/
  | heard (uri : String) (text : List Char)
  /-- Whoever listens to a registry learned that a process ended. -/
  | ended (uri : String) (code : Option Int)
  /-- A fault that ended a thread. -/
  | threadFault (f : Fault)
  /-- A fault in a callback of the event loop. -/
  | loopFault (f : Fault)

/-- The end of an act. -/
structure Outcome (σ α : Type) where
  result : Except Fault α
  state : σ
  trace : List Effect := []

/-- An act on a state. -/
def Act (σ α : Type) : Type := σ → Outcome σ α

namespace Act

variable {σ τ α β : Type}

/-- The end of an act when it starts in a state. -/
def run (act : Act σ α) (s : σ) : Outcome σ α := act s

/-- Does nothing. -/
protected def pure (a : α) : Act σ α := fun s => { result := .ok a, state := s }

/-- One act and, unless it breaks off, the next. -/
protected def bind (act : Act σ α) (next : α → Act σ β) : Act σ β := fun s =>
  let o := act s
  match o.result with
  | .error f => { result := .error f, state := o.state, trace := o.trace }
  | .ok a =>
    let p := next a o.state
    { p with trace := o.trace ++ p.trace }

instance : Monad (Act σ) where
  pure := Act.pure
  bind := Act.bind

theorem pure_bind (a : α) (next : α → Act σ β) : Act.bind (Act.pure a) next = next a := rfl

theorem bind_pure (act : Act σ α) : Act.bind act Act.pure = act := by
  funext s
  rcases h : act s with ⟨r, t, tr⟩
  cases r <;> simp [Act.bind, Act.pure, h]

theorem bind_assoc {γ : Type} (act : Act σ α) (f : α → Act σ β) (g : β → Act σ γ) :
    Act.bind (Act.bind act f) g = Act.bind act fun a => Act.bind (f a) g := by
  funext s
  rcases h : act s with ⟨r, t, tr⟩
  cases r with
  | error e => simp [Act.bind, h]
  | ok a =>
    rcases h' : f a t with ⟨r', t', tr'⟩
    cases r' <;> simp [Act.bind, h, h']

/-- Breaks off. -/
def fail (f : Fault) : Act σ α := fun s => { result := .error f, state := s }

/-- Goes on with another act if the fault is one of those that are handled. -/
def catching (act : Act σ α) (handler : Fault → Option (Act σ α)) : Act σ α := fun s =>
  let o := act s
  match o.result with
  | .ok _ => o
  | .error f =>
    match handler f with
    | none => o
    | some next =>
      let p := next o.state
      { p with trace := o.trace ++ p.trace }

/-- The value of an act, or its fault. -/
def attempt (act : Act σ α) : Act σ (Except Fault α) := fun s =>
  let o := act s
  { result := .ok o.result, state := o.state, trace := o.trace }

/-- The state. -/
def get : Act σ σ := fun s => { result := .ok s, state := s }

/-- Changes the state. -/
def modify (f : σ → σ) : Act σ Unit := fun s => { result := .ok (), state := f s }

/-- Leaves something in the trace. -/
def emit (e : Effect) : Act σ Unit := fun s => { result := .ok (), state := s, trace := [e] }

/-- Writes to the log. -/
def log (n : Notice) : Act σ Unit := emit (.notice n)

/-- Tells the editor. -/
def tell (e : EditorEvent) : Act σ Unit := emit (.event e)

/-- A value that may be a fault. -/
def ofExcept : Except Fault α → Act σ α
  | .ok a => Act.pure a
  | .error f => fail f

/-- An act on a part of the state. -/
def focus (part : σ → τ) (put : τ → σ → σ) (act : Act τ α) : Act σ α := fun s =>
  let o := act (part s)
  { result := o.result, state := put o.state s, trace := o.trace }

/-- An act for each item of a list, in order. -/
def each (act : α → Act σ Unit) : List α → Act σ Unit
  | [] => Act.pure ()
  | a :: rest => Act.bind (act a) fun _ => each act rest

end Act

end ProverLink
