import ProverLink.Registry.Threads

/-!
# Documents and their sessions

What the program does when a document is opened, changed or closed, and with what it hears from the
checkers. A session that has been closed is not listened to any more.
-/

namespace ProverLink.Bridge

/-- Sends a query. If the checker takes no more input its session is closed and the editor is
told. -/
def sendOrReport (uri : String) (q : Query) : Act Registry (Option Nat) :=
  (Registry.send uri q).catching fun
    | .transport e => some do
      let r ← Act.get
      match r.find? uri with
      | none => pure ()
      | some id =>
        let _ ← Registry.discard id
      let _ ← Session.transportError uri (Fault.transportMessage e)
      pure none
    | _ => none

/-- Has a document checked again with a new text. -/
def changeDocument (uri text : String) : Act Registry (Option Nat) := do
  let r ← Act.get
  match r.find? uri with
  | none =>
    Act.log (.changeIgnored uri)
    pure none
  | some id =>
    Registry.onSession id () Session.clear
    match ← sendOrReport uri (.fullBuffer text) with
    | none => pure none
    | some n =>
      Act.modify (Registry.updateSession id fun s => { s with checkQuery := n })
      pure (some n)

/-- Starts a session, or tells the editor why there is none. -/
def startSession (uri : String) (path : Path) : Act Registry (Option Nat) :=
  ((Registry.openSession uri path.parent path.name).bind fun id => pure (some id)).catching fun
    | .spawn executable e => some do
      let _ ← Session.transportError uri (Fault.spawnMessage executable e)
      pure none
    | _ => none

/-- Opens a document: its checker is started, given the text, and asked to check it. -/
def openDocument (uri text : String) (path : Path) : Act Registry (Option Nat) := do
  Act.log (.opening uri path.parent.toString path.name)
  match ← startSession uri path with
  | none => pure none
  | some id =>
    match ← sendOrReport uri (.vfsAdd text) with
    | none => pure none
    | some _ =>
      let _ ← changeDocument uri text
      pure (some id)

/-- Opens a document at the path that its URI leads to. -/
def openUri (uri text : String) : Act Registry (Option Nat) := do
  let path ← Act.ofExcept ((Uri.toPath uri).mapError Fault.uri)
  openDocument uri text path

/-- Closes a document. -/
def closeDocument (uri : String) : Act Registry Bool := do
  Act.log (.closing uri)
  Registry.close uri

/-- Closes all documents. -/
def shutdown : Act Registry Unit := Registry.closeAll

/-- Whether there is a session in a slot and it is not closed. -/
def isOpen (r : Registry) (id : Nat) : Bool :=
  match r.session? id with
  | some s => !s.closed
  | none => false

variable [Limits]

/-- Acts upon output of a checker. -/
def handleOutput (id : Nat) (text : List Char) : Act Registry Unit := do
  let r ← Act.get
  if isOpen r id then
    let _ ← Registry.onSession id [] (Session.feed text)
  else pure ()

/-- The wording for a process that ended by itself. -/
def exitMessage (code : Option Int) : String :=
  "F* process exited unexpectedly (exit code " ++ (code.map Decimal.render).getD "None" ++ ")"

/-- Acts upon the end of a checker. -/
def handleExit (id : Nat) (code : Option Int) : Act Registry Unit := do
  let r ← Act.get
  if isOpen r id then
    let _ ← Registry.onSession id [] Session.finish
    if ← Registry.discard id then
      let uri := ((r.session? id).map (·.uri)).getD ""
      let _ ← Session.transportError uri (exitMessage code)
  else pure ()

/-- Acts at once upon what is heard. -/
def immediate : Listener := { output := handleOutput, exit := handleExit }

end ProverLink.Bridge
