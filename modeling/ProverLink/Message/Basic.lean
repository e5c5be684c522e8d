import ProverLink.Json.Value

/-!
# Messages of the checker

What F* says on its standard output, one JSON object per line. A message carries the id of the query
it belongs to, a body of one of five kinds, and the fields that its kind does not declare.
-/

namespace ProverLink

/-- A place in a source file as the checker counts: lines from one, columns from zero. -/
structure Coordinate where
  line : Int
  column : Int
deriving DecidableEq

/-- A stretch of a source file. -/
structure SourceRange where
  file : Option Text := none
  start : Coordinate
  stop : Coordinate
  extra : Fields := []

/-- How far a check has come. -/
structure Progress where
  stage : Option Text := none
  range : Option SourceRange := none
  extra : Fields := []

/-- One error that the checker found. -/
structure Complaint where
  message : Text
  level : Option Text := none
  ranges : List SourceRange := []
  extra : Fields := []

/-- What a failed query is answered with: a malformed query is rejected with a text. -/
inductive Answer where
  | empty
  | rejection (reason : Text)
  | complaints (entries : List Complaint)

/-- The id of a query as the checker repeats it. -/
inductive QueryId where
  | text (t : Text)
  | number (i : Int)
deriving DecidableEq

/-- The five kinds of messages. -/
inductive Body where
  | protocolInfo (version : Option Int) (features : List Text)
  | progress (contents : Progress)
  | failure (answer : Answer)
  | success (response : Json)
  | unhandled (kind : Json) (reason : Option Text)

/-- A message of the checker. -/
structure Message where
  queryId : Option QueryId := none
  body : Body
  extra : Fields := []

/-- The number that an id stands for, if it is one. -/
def QueryId.number? : QueryId → Option Int
  | .text t => Decimal.read? t
  | .number i => some i

namespace Message

/-- The number of the query that a message belongs to. -/
def queryNumber (m : Message) : Option Int := m.queryId.bind QueryId.number?

/-- A message that is put aside, for a reason. -/
def aside (kind : Json) (reason : String) : Message :=
  { body := .unhandled kind (some (Text.ofString reason)) }

end Message

end ProverLink
