import ProverLink.Registry.Basic

/-!
# The threads of a session

Each session has a reader for standard output, a reader for standard error if there is that pipe,
and, once it is closed, perhaps a reaper. They stand still while a call runs. Afterwards they take
turns: first the readers of each slot in order, each with all that has arrived, then the reapers in
order.

The reader of standard output tells a listener. It ends at the end of the pipe, at an error, or at a
fault of the listener, and then tells the listener once that the process is gone.
-/

namespace ProverLink

/-- Who hears of the output and of the end of the process in a slot. -/
structure Listener where
  output : Nat → List Char → Act Registry Unit
  exit : Nat → Option Int → Act Registry Unit

namespace Registry

/-! ### Standard output -/

/-- Tells the listener a text, unless it is empty. -/
def hear (l : Listener) (id : Nat) (text : List Char) : Act Registry Unit :=
  if text.isEmpty then pure () else l.output id text

/-- Ends the reader and tells the listener. A fault now ends the thread. -/
def leave (l : Listener) (id : Nat) (code : Option Int) : Act Registry Unit := do
  Act.modify (updateJob id fun j => { j with reader := none })
  match ← (l.exit id code).attempt with
  | .ok () => pure ()
  | .error f => Act.emit (.threadFault f)

/-- Ends the reader in the middle of its work. -/
def breakOff (l : Listener) (id : Nat) (uri : String) : Act Registry Unit := do
  Act.log (.readingFailed uri)
  leave l id none

/-- Ends the reader at the end of the pipe: what was left incomplete is told first. -/
def conclude (l : Listener) (id : Nat) (uri : String) (d : Utf8.Decoder) : Act Registry Unit := do
  match ← (hear l id d.finish).attempt with
  | .error _ => breakOff l id uri
  | .ok () =>
    let r ← Act.get
    leave l id ((r.child? id).bind (·.code))

/-- Takes in what has arrived on standard output. -/
def consume (l : Listener) (id : Nat) (uri : String) :
    Utf8.Decoder → List Arrival → Act Registry Unit
  | d, [] => Act.modify (updateJob id fun j => { j with reader := some d })
  | d, .bytes b :: rest => do
    let (text, d) := d.feed b
    match ← (hear l id text).attempt with
    | .ok () => consume l id uri d rest
    | .error _ => breakOff l id uri
  | _, .error (.other _) :: _ => breakOff l id uri
  | d, .error e :: _ => do
    Act.log (.outputClosed uri e)
    conclude l id uri d
  | d, .finish :: _ => conclude l id uri d

/-- A turn of the reader of standard output. -/
def readOutput (l : Listener) (id : Nat) : Act Registry Unit := do
  let r ← Act.get
  match r.job? id, (r.child? id).bind (·.stdout) with
  | some { session := s, reader := some d, .. }, some pipe =>
    Act.modify (updateChild id fun c => { c with stdout := some { pipe with queue := [] } })
    consume l id s.uri d pipe.queue
  | _, _ => pure ()

/-! ### Standard error -/

/-- Ends the reader of standard error. -/
def stopListening (id : Nat) : Act Registry Unit :=
  Act.modify (updateJob id fun j => { j with listening := false })

/-- Takes in what has arrived on standard error: each line that is not blank goes to the log. -/
def consumeErrors (id : Nat) (uri file : String) : List Arrival → Act Registry Unit
  | [] => pure ()
  | .bytes b :: rest => do
    let line := Blank.trimBlankEnd (Utf8.decode b)
    if line.isEmpty then consumeErrors id uri file rest
    else
      Act.log (.errorLine file line)
      consumeErrors id uri file rest
  | .error (.other text) :: _ => do
    stopListening id
    Act.emit (.threadFault (.pipe (.other text)))
  | .error e :: _ => do
    stopListening id
    Act.log (.errorsClosed uri e)
  | .finish :: _ => stopListening id

/-- A turn of the reader of standard error. -/
def readErrors (id : Nat) : Act Registry Unit := do
  let r ← Act.get
  match r.job? id, (r.child? id).bind (·.stderr) with
  | some { session := s, file, listening := true, .. }, some pipe =>
    Act.modify (updateChild id fun c => { c with stderr := some { pipe with queue := [] } })
    consumeErrors id s.uri file pipe.queue
  | _, _ => pure ()

/-! ### The reaper -/

/-- The reaper waits. A process that has not ended after the request is killed, and one that has not
ended after that is given up. -/
def reap (id : Nat) : Act Registry Unit := do
  let r ← Act.get
  match r.job? id, r.child? id with
  | some { session := s, reaping := true, .. }, some c =>
    Act.modify (updateJob id fun j => { j with reaping := false })
    if c.code.isNone then
      Act.log (.killing s.uri)
      Act.modify (updateChild id Child.kill)
      if c.kill.code.isNone then Act.log (.survived s.uri)
  | _, _ => pure ()

/-! ### Taking turns -/

/-- The turns of both readers of a slot. -/
def read (l : Listener) (id : Nat) : Act Registry Unit := do
  readOutput l id
  readErrors id

/-- One turn for each thread. -/
def round (l : Listener) : Act Registry Unit := do
  let r ← Act.get
  let ids := List.range r.slots.length
  Act.each (read l) ids
  Act.each reap ids

/-- Lets the threads take turns until nothing moves. In the first round a reader may end, its
session be closed and its process be killed, and in the second the pipes of that process end. -/
def settle (l : Listener) : Act Registry Unit := do
  round l
  round l

/-- A call, and then the threads until nothing moves. -/
def settling {α : Type} (l : Listener) (call : Act Registry α) : Act Registry α := do
  let result ← call.attempt
  settle l
  Act.ofExcept result

end Registry

end ProverLink
