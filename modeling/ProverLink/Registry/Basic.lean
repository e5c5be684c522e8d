import ProverLink.Child.Basic
import ProverLink.Config.Basic
import ProverLink.Query
import ProverLink.Session.Dispatch
import ProverLink.Text.Utf8

/-!
# The registry of sessions

Every process that was started has a slot, and with it the session and the threads that belong to
it. The registry says which slot serves which document; a document has at most one.

A session that is taken out of the registry is closed: its process loses its standard input and,
unless it has ended, is asked to end, and a reaper sees to it that it does.
-/

namespace ProverLink

/-- A session with its threads. -/
structure Job where
  session : Session
  file : String
  /-- The reader of standard output, while it runs: its decoder. -/
  reader : Option Utf8.Decoder := some .clean
  /-- Whether the reader of standard error runs. -/
  listening : Bool := true
  /-- Whether a reaper waits for the end of the process. -/
  reaping : Bool := false

/-- A process that was started, and what belongs to it. -/
structure Slot where
  child : Child
  job : Option Job := none

/-- A callback that was handed to the event loop. -/
inductive Call where
  | output (slot : Nat) (text : List Char)
  | exit (slot : Nat) (code : Option Int)

/-- The sessions, by document. -/
structure Registry where
  config : Config := {}
  plan : SpawnPlan := {}
  slots : List Slot := []
  /-- Which slot serves which document, in the order of registration. -/
  registered : List (String × Nat) := []
  /-- The callbacks that the event loop has not run yet. -/
  calls : List Call := []

namespace Registry

/-! ### Parts -/

/-- The slot that serves a document. -/
def find? (r : Registry) (uri : String) : Option Nat :=
  (r.registered.find? fun e => e.1 = uri).map (·.2)

/-- The process in a slot. -/
def child? (r : Registry) (id : Nat) : Option Child := r.slots[id]?.map (·.child)

/-- The job in a slot. -/
def job? (r : Registry) (id : Nat) : Option Job := r.slots[id]?.bind (·.job)

/-- The session in a slot. -/
def session? (r : Registry) (id : Nat) : Option Session := (r.job? id).map (·.session)

/-- Changes a slot. -/
def updateSlot (id : Nat) (f : Slot → Slot) (r : Registry) : Registry :=
  { r with slots := r.slots.modify id f }

/-- Changes the process in a slot. -/
def updateChild (id : Nat) (f : Child → Child) (r : Registry) : Registry :=
  r.updateSlot id fun s => { s with child := f s.child }

/-- Changes the job in a slot. -/
def updateJob (id : Nat) (f : Job → Job) (r : Registry) : Registry :=
  r.updateSlot id fun s => { s with job := s.job.map f }

/-- Changes the session in a slot. -/
def updateSession (id : Nat) (f : Session → Session) (r : Registry) : Registry :=
  r.updateJob id fun j => { j with session := f j.session }

/-- Takes a document out of the registry. -/
def unregister (uri : String) (r : Registry) : Registry :=
  { r with registered := r.registered.filter fun e => e.1 ≠ uri }

/-- Lets a slot serve a document, after all others. -/
def register (uri : String) (id : Nat) (r : Registry) : Registry :=
  { r.unregister uri with registered := (r.unregister uri).registered ++ [(uri, id)] }

/-- An act on the session in a slot; nothing happens where there is none. -/
def onSession {α : Type} (id : Nat) (absent : α) (act : Act Session α) : Act Registry α := fun r =>
  match r.session? id with
  | none => { result := .ok absent, state := r }
  | some _ =>
    Act.focus (fun r => (r.session? id).getD { uri := "" })
      (fun s r => r.updateSession id fun _ => s) act r

/-! ### Closing -/

/-- Closes the standard input of a process. An error of the operating system is only noted. -/
def closeStdin (id : Nat) (uri : String) (c : Child) : Act Registry Unit :=
  if c.stdin.attached then do
    Act.modify (updateChild id fun c => { c with stdin := { c.stdin with closed := true } })
    match c.stdin.closeError with
    | none => pure ()
    | some (.os e) => Act.log (.closeFailed uri e)
    | some e => Act.fail (.pipe e)
  else pure ()

/-- Asks a process to end, and starts a reaper, unless the process has ended. -/
def requestEnd (id : Nat) (uri : String) (c : Child) : Act Registry Unit :=
  match c.code with
  | some _ => pure ()
  | none => do
    Act.log (.terminating uri)
    Act.modify (updateChild id Child.terminate)
    Act.modify (updateJob id fun j => { j with reaping := true })

/-- Ends the session in a slot. -/
def terminate (id : Nat) : Act Registry Unit := do
  let r ← Act.get
  match r.session? id, r.child? id with
  | some s, some c =>
    Act.modify (updateSession id fun s => { s with closed := true })
    closeStdin id s.uri c
    requestEnd id s.uri c
  | _, _ => pure ()

/-- Closes the session of a document, if there is one. -/
def close (uri : String) : Act Registry Bool := do
  let r ← Act.get
  match r.find? uri with
  | none => pure false
  | some id =>
    Act.modify (unregister uri)
    terminate id
    pure true

/-- Closes the session in a slot if it is the one that serves its document. -/
def discard (id : Nat) : Act Registry Bool := do
  let r ← Act.get
  match r.session? id with
  | none => pure false
  | some s =>
    if r.find? s.uri = some id then
      Act.modify (unregister s.uri)
      terminate id
      pure true
    else pure false

/-- Closes all sessions. -/
def closeAll : Act Registry Unit := do
  let r ← Act.get
  Act.modify fun r => { r with registered := [] }
  Act.each terminate (r.registered.map (·.2))

/-! ### Opening and writing -/

/-- The details of a fault that concerns a document. -/
def aboutUri (uri : String) : Fields := [(Text.ofString "uri", .str (Text.ofString uri))]

/-- Starts a process in a new slot. -/
def spawn (command : List String) (directory : Path) : Act Registry Nat := do
  let r ← Act.get
  match r.plan.error with
  | some (.os e) => Act.fail (.spawn r.config.executable e)
  | some e => Act.fail (.pipe e)
  | none =>
    let id := r.slots.length
    Act.emit (.spawned id command directory.toString)
    Act.modify fun r => { r with slots := r.slots ++ [{ child := r.plan.child }] }
    pure id

/-- Starts a session for a document in place of the one it may have. -/
def openSession (uri : String) (directory : Path) (file : String) : Act Registry Nat := do
  let _ ← close uri
  let r ← Act.get
  let command := r.config.command file
  Act.log (.starting command directory.toString)
  let id ← spawn command directory
  let c := r.plan.child
  if c.stdin.attached && c.stdout.isSome then
    let job : Job := { session := { uri }, file, listening := c.stderr.isSome }
    Act.modify (updateSlot id fun s => { s with job := some job })
    Act.modify (register uri id)
    pure id
  else Act.fail (.impossible "F* process spawned without pipes" (aboutUri uri))

/-- Writes a line to the process of a session. Writing and flushing are one step: a pipe takes the
whole line or none of it. -/
def writeLine (id : Nat) (line : List Char) : Act Registry Unit := do
  let r ← Act.get
  match r.session? id, r.child? id with
  | some s, some c =>
    if c.stdin.attached then
      Act.modify (updateChild id Child.afterWrite)
      match c.writeError? with
      | none => Act.emit (.wrote id line)
      | some (.other text) => Act.fail (.pipe (.other text))
      | some e => Act.fail (.transport e)
    else Act.fail (.impossible "session process has no stdin pipe" (aboutUri s.uri))
  | _, _ => pure ()

/-- Sends a query to the session of a document, with the next number as its id. -/
def send (uri : String) (q : Query) : Act Registry (Option Nat) := do
  let r ← Act.get
  match r.find? uri with
  | none =>
    Act.log (.noSession uri q.name)
    pure none
  | some id =>
    let n := ((r.session? id).map (·.lastQuery)).getD 0 + 1
    Act.modify (updateSession id fun s => { s with lastQuery := n })
    let line ← Act.ofExcept (q.stamp n).toLine
    writeLine id line
    Act.log (.sent uri q.name n)
    pure (some n)

end Registry

end ProverLink
