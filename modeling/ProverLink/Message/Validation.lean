import ProverLink.Json.Reader
import ProverLink.Message.Checked
import ProverLink.Message.Tag

/-!
# From lines to messages

`Message.ofJson` checks an object against the shape that its tag selects, and `Message.parse` reads
a line. A line that is JSON always gives a message: what does not have the shape is put aside with
the number of errors.
-/

namespace ProverLink

/-- A coordinate is an array of a line and a column. -/
def Coordinate.ofJson : Json → Checked Coordinate := Checked.pair Checked.integer Coordinate.mk

/-- The names that are declared, as texts. -/
def declared (names : List String) : List Text := names.map Text.ofString

/-- A range has `beg` and `end`, and possibly `fname`. -/
def SourceRange.ofJson : Json → Checked SourceRange
  | .obj fields =>
    let file := Checked.optional fields "fname" none (Checked.nullable Checked.text)
    let start := Checked.required fields "beg" Coordinate.ofJson
    let stop := Checked.required fields "end" Coordinate.ofJson
    Checked.withExtra (Fields.without fields (declared ["fname", "beg", "end"]))
      (Checked.map3 SourceRange.mk file start stop)
  | _ => Checked.fail

/-- The contents of a progress message may have a stage and a range. -/
def Progress.ofJson : Json → Checked Progress
  | .obj fields =>
    let stage := Checked.optional fields "stage" none (Checked.nullable Checked.text)
    let range := Checked.optional fields "ranges" none (Checked.nullable SourceRange.ofJson)
    Checked.withExtra (Fields.without fields (declared ["stage", "ranges"]))
      (Checked.map2 Progress.mk stage range)
  | _ => Checked.fail

/-- A complaint has a message, and possibly a level and ranges. -/
def Complaint.ofJson : Json → Checked Complaint
  | .obj fields =>
    let message := Checked.required fields "message" Checked.text
    let level := Checked.optional fields "level" none (Checked.nullable Checked.text)
    let ranges := Checked.optional fields "ranges" [] (Checked.list SourceRange.ofJson)
    Checked.withExtra (Fields.without fields (declared ["message", "level", "ranges"]))
      (Checked.map3 Complaint.mk message level ranges)
  | _ => Checked.fail

/-- An answer is null, a text or a list of complaints. If it is neither, the errors of the list
count, and one for the text. -/
def Answer.ofJson : Json → Checked Answer
  | .null => .ok .empty
  | .str t => .ok (.rejection t)
  | v =>
    match Checked.list Complaint.ofJson v with
    | .ok entries => .ok (.complaints entries)
    | .error n => .error (n + 1)

/-- An id is a text or an integer; anything else is one error for each. -/
def QueryId.ofJson : Json → Checked QueryId
  | .str t => .ok (.text t)
  | v =>
    match Checked.integer v with
    | .ok i => .ok (.number i)
    | .error n => .error (n + 1)

namespace Message

/-- The names that each kind of message declares. -/
def bodyNames : Tag → List String
  | .protocolInfo => ["kind", "version", "features"]
  | .progress => ["kind", "level", "contents"]
  | .failure => ["kind", "status", "response"]
  | .success => ["kind", "status", "response"]
  | .unhandled => ["kind", "reason"]

/-- The body that a tag selects. -/
def bodyOf (fields : Fields) : Tag → Checked Body
  | .protocolInfo =>
    let version := Checked.optional fields "version" none (Checked.nullable Checked.integer)
    let features := Checked.optional fields "features" [] (Checked.list Checked.text)
    Checked.map2 Body.protocolInfo version features
  | .progress => (Checked.optional fields "contents" {} Progress.ofJson).map Body.progress
  | .failure => (Checked.optional fields "response" .empty Answer.ofJson).map Body.failure
  | .success => (Checked.optional fields "response" .null Checked.anything).map Body.success
  | .unhandled =>
    let kind := Checked.optional fields "kind" .null Checked.anything
    let reason := Checked.optional fields "reason" none (Checked.nullable Checked.text)
    Checked.map2 Body.unhandled kind reason

/-- The message that the fields of an object give. -/
def ofFields (fields : Fields) : Checked Message :=
  let tag := Tag.ofFields fields
  let idName := Checked.idName fields
  let id := Checked.optional fields idName none (Checked.nullable QueryId.ofJson)
  Checked.withExtra (Fields.without fields (declared (idName :: bodyNames tag)))
    (Checked.map2 Message.mk id (bodyOf fields tag))

/-- The message that a value gives. -/
def ofJson : Json → Checked Message
  | .obj fields => ofFields fields
  | _ => Checked.fail

/-- The message that a value gives if it has to be about progress. -/
def progressOfJson : Json → Checked Message
  | .obj fields =>
    let idName := Checked.idName fields
    let id := Checked.optional fields idName none (Checked.nullable QueryId.ofJson)
    let kind := Checked.required fields "kind" (Checked.word "message")
    let level := Checked.required fields "level" (Checked.word "progress")
    Checked.withExtra (Fields.without fields (declared (idName :: bodyNames .progress)))
      (Checked.map2 (fun _ m => m) (Checked.map2 (fun _ _ => ()) kind level)
        (Checked.map2 Message.mk id (bodyOf fields .progress)))
  | _ => Checked.fail

/-- The wording of a number of errors. -/
def errorCount (n : Nat) : String := Decimal.render n ++ " validation error(s)"

/-- The message that any value gives; what has no known shape is put aside. -/
def interpret : Json → Message
  | .obj fields =>
    match ofFields fields with
    | .ok m => m
    | .error n => aside ((Fields.get? fields (Text.ofString "kind")).getD .null) (errorCount n)
  | v => aside .null ("expected an object, got " ++ v.typeName)

/-- Reads a line. -/
def parse [Limits] (line : List Char) : Except Json.ReadError Message :=
  (Json.read line).map interpret

end Message

end ProverLink
