import ProverLink.Message.Validation
import ProverLink.Session.Basic

/-!
# Dispatching lines

What a session does with the output of its checker: the text is cut into lines, each line is read as
a message, and the message is acted upon. Progress and failures of a superseded check are
dropped.
-/

namespace ProverLink.Session

/-- Whether a message belongs to a superseded check; if so, that is noted. -/
def isStale (kind : String) (m : Message) : Act Session Bool := do
  let s ← Act.get
  match m.queryNumber with
  | none => pure false
  | some n =>
    if s.isSuperseded (some n) then
      Act.log (.superseded kind n)
      pure true
    else pure false

/-- Acts upon the answer to a failed query. -/
def failed : Answer → Act Session Unit
  | .empty => pure ()
  | .rejection reason => do
    let s ← Act.get
    Act.log (.rejected s.uri reason)
  | .complaints entries => do
    let _ ← failure entries

/-- Acts upon a message. -/
def route (m : Message) : Act Session Unit := do
  let s ← Act.get
  match m.body with
  | .protocolInfo version features => Act.log (.protocolVersion s.uri version features)
  | .progress p =>
    if ← isStale "message" m then pure ()
    else
      let _ ← progress p
  | .failure answer => if ← isStale "response" m then pure () else failed answer
  | .success _ => pure ()
  | .unhandled kind reason => Act.log (.unhandled s.uri kind reason)

variable [Limits]

/-- Acts upon a line. Blank lines and lines that are not JSON give no message. -/
def dispatchLine (line : List Char) : Act Session (Option Message) := do
  if Blank.allBlank line then pure none
  else
    match Message.parse line with
    | .ok m => do
      route m
      pure (some m)
    | .error (.tooManyDigits count) => Act.fail (.tooManyDigits (some count))
    | .error (.tooDeep n) => Act.fail (.tooDeep n)
    | .error (.malformed problem l column offset) => do
      let s ← Act.get
      Act.log (.unparsable s.uri { problem, line := l, column, offset } line)
      pure none

/-- Acts upon lines in order, and gives the messages. A fault ends it. -/
def dispatchLines : List (List Char) → Act Session (List Message)
  | [] => pure []
  | line :: rest => do
    let m ← dispatchLine line
    let ms ← dispatchLines rest
    pure (m.toList ++ ms)

/-- Takes in a chunk of output. -/
def feed (chunk : List Char) : Act Session (List Message) := do
  let s ← Act.get
  let (lines, rest) := s.lines.feed chunk
  Act.modify fun s => { s with lines := rest }
  dispatchLines lines

/-- Acts upon what is left when the output ends. -/
def finish : Act Session (List Message) := do
  let s ← Act.get
  let (lines, rest) := s.lines.flush
  Act.modify fun s => { s with lines := rest }
  dispatchLines lines

end ProverLink.Session
