import ProverLink.Bridge
import ProverLink.Config.Load

/-!
# The language server

The server answers the editor: it loads the configuration, and passes on what happens to documents.
The configuration of the sessions is the one that the server has when it is first asked about a
document.

If an event loop runs, what the threads hear is queued for it; otherwise it is acted upon where it
is heard, with a warning.
-/

namespace ProverLink

/-- The language server. -/
structure Server where
  files : FileTree
  environment : Environment := []
  configPath : Option Path := none
  config : Config := {}
  /-- Whether the sessions have their configuration. -/
  started : Bool := false
  registry : Registry := {}

namespace Server

/-- An act on the sessions. -/
def onRegistry {α : Type} (act : Act Registry α) : Act Server α :=
  Act.focus Server.registry (fun r s => { s with registry := r }) act

/-! ### Configuration -/

variable [Limits]

/-- Loads the configuration. -/
def load (root : Option Path) : Act Server Unit := do
  let s ← Act.get
  let loaded := Config.load s.files s.environment root s.configPath
  Act.each Act.log loaded.notices
  let config ← Act.ofExcept loaded.result
  Act.modify fun s => { s with config }

/-- Takes another configuration file. -/
def configure (path : Option Path) : Act Server Unit := do
  Act.modify fun s => { s with configPath := path }
  load none

/-- The editor has told where the workspace is. -/
def initialized (root : Option Path) : Act Server Unit := do
  load root
  let s ← Act.get
  Act.log (.executable s.config.executable)

/-! ### Documents -/

/-- Gives the sessions their configuration, the first time. -/
def begin : Act Server Unit :=
  Act.modify fun s =>
    if s.started then s
    else { s with started := true, registry := { s.registry with config := s.config } }

/-- A document was opened. -/
def didOpen (uri text : String) : Act Server Unit := do
  begin
  let _ ← onRegistry (Bridge.openUri uri text)

/-- A document was changed. -/
def didChange (uri text : String) : Act Server Unit := do
  begin
  let _ ← onRegistry (Bridge.changeDocument uri text)

/-- A document was closed. -/
def didClose (uri : String) : Act Server Unit := do
  begin
  let _ ← onRegistry (Bridge.closeDocument uri)

/-- The editor is about to leave. -/
def shutdown : Act Server Unit := do
  begin
  onRegistry Bridge.shutdown

/-! ### The event loop -/

/-- Acts where something is heard, with a warning. -/
def inline : Listener where
  output id text := do
    Act.log (.calledInline .output)
    Bridge.handleOutput id text
  exit id code := do
    Act.log (.calledInline .exit)
    Bridge.handleExit id code

/-- Queues a callback. -/
def enqueue (c : Call) : Act Registry Unit :=
  Act.modify fun r => { r with calls := r.calls ++ [c] }

/-- Queues what is heard for the event loop. -/
def queued : Listener where
  output id text := enqueue (.output id text)
  exit id code := enqueue (.exit id code)

/-- Runs a callback. A fault of it is seen, and nothing else comes of it. -/
def runCall (c : Call) : Act Registry Unit := do
  let act := match c with
    | .output id text => Bridge.handleOutput id text
    | .exit id code => Bridge.handleExit id code
  match ← act.attempt with
  | .ok () => pure ()
  | .error f => Act.emit (.loopFault f)

/-- A turn of the event loop: the callbacks that were queued, in order. -/
def turn : Act Registry Unit := do
  let r ← Act.get
  Act.modify fun r => { r with calls := [] }
  Act.each runCall r.calls

/-- Lets threads and event loop take turns until nothing moves. In the first pass the callbacks may
close sessions, and in the second what follows from that is heard. -/
def settleLoop : Act Registry Unit := do
  Registry.settle queued
  turn
  Registry.settle queued
  turn

/-- A call, and then threads and event loop, if there is one, until nothing moves. -/
def settling {α : Type} (loop : Bool) (call : Act Server α) : Act Server α := do
  let result ← call.attempt
  onRegistry (if loop then settleLoop else Registry.settle inline)
  Act.ofExcept result

end Server

end ProverLink
