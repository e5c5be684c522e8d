import ProverLink.Act
import ProverLink.Text.LineBuffer

/-!
# Sessions

A session is the conversation with one checker about one document. It counts the queries it has sent
and remembers which of them was the last check, so that answers to earlier checks can be told apart.
-/

namespace ProverLink

/-- The conversation about a document. -/
structure Session where
  uri : String
  /-- How many queries were sent. -/
  lastQuery : Nat := 0
  /-- The number of the last check. -/
  checkQuery : Int := 0
  closed : Bool := false
  lines : LineBuffer := {}
  /-- What the checker found since the last clear. -/
  diagnostics : List Diagnostic := []

namespace Session

/-- Whether a query, as far as its number is known, comes before the last check. -/
def isSuperseded (s : Session) : Option Int → Bool
  | none => false
  | some n => n < s.checkQuery

/-- The stage at which a stretch of the document is checked. -/
def fragmentOk : Text := Text.ofString "full-buffer-fragment-ok"

/-- Forgets what was found, and tells the editor. -/
def clear : Act Session Unit := do
  let s ← Act.get
  Act.modify fun s => { s with diagnostics := [] }
  Act.tell (.publish s.uri [])
  Act.log (.statusClear s.uri)
  Act.tell (.statusClear s.uri)

/-- Tells the editor about a stretch that is checked. -/
def progress (p : Progress) : Act Session (Option Range) := do
  match p.range with
  | none => pure none
  | some r =>
    if p.stage = some fragmentOk then
      let s ← Act.get
      let range ← Act.ofExcept (Range.ofCoordinates r.start r.stop)
      Act.log (.statusOk s.uri range)
      Act.tell (.statusOk s.uri [range])
      pure (some range)
    else pure none

/-- Adds complaints to what was found, and shows all of it. If one complaint has no place in the
document, none is added. -/
def failure (entries : List Complaint) : Act Session (List Diagnostic) := do
  let batch ← Act.ofExcept (entries.mapM Diagnostic.ofComplaint)
  if batch.isEmpty then pure batch
  else
    Act.modify fun s => { s with diagnostics := s.diagnostics ++ batch }
    let s ← Act.get
    Act.tell (.publish s.uri s.diagnostics)
    pure batch

/-- Tells the editor that the checker of a document failed. -/
def transportError {σ : Type} (uri message : String) : Act σ Diagnostic := do
  Act.log (.transportError uri message)
  let d := Diagnostic.ofFailure message
  Act.tell (.publish uri [d])
  Act.tell (.logError (uri ++ ": " ++ message))
  pure d

end Session

end ProverLink
