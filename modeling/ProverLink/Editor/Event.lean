import ProverLink.Editor.Position

/-!
# What the editor is told

Diagnostics and the four kinds of events that go to the editor.
-/

namespace ProverLink

/-- Who found an error. -/
inductive Origin where
  | checker
  | bridge
deriving DecidableEq

/-- The name under which an editor shows an origin. -/
def Origin.name : Origin → String
  | .checker => "fstar"
  | .bridge => "fstar-bridge"

/-- An error that an editor shows at a place. -/
structure Diagnostic where
  range : Range
  message : Text
  origin : Origin
deriving DecidableEq

/-- An event for the editor. -/
inductive EditorEvent where
  /-- Shows these diagnostics of a document, and no others. -/
  | publish (uri : String) (diagnostics : List Diagnostic)
  /-- A stretch of a document is checked. -/
  | statusOk (uri : String) (ranges : List Range)
  /-- Nothing of a document is checked yet. -/
  | statusClear (uri : String)
  /-- An error that is not about a place in a document. -/
  | logError (message : String)
deriving DecidableEq

namespace Diagnostic

/-- The diagnostic of a complaint: it stands at the first range, or at the beginning. -/
def ofComplaint (c : Complaint) : Except Fault Diagnostic :=
  match c.ranges with
  | [] => .ok { range := .documentStart, message := c.message, origin := .checker }
  | r :: _ => do
    let range ← Range.ofCoordinates r.start r.stop
    .ok { range, message := c.message, origin := .checker }

/-- The diagnostic of a process that failed. -/
def ofFailure (message : String) : Diagnostic :=
  { range := .documentStart, message := Text.ofString message, origin := .bridge }

end Diagnostic

end ProverLink
