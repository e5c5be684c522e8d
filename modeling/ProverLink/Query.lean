import ProverLink.Fault
import ProverLink.Json.Compact
import ProverLink.Message.Checked

/-!
# Queries

What the checker is asked, one JSON object per line. A query has a name, arguments and an id. A
query with a surrogate in a value, or with an argument that is nested too deeply, has no line.
-/

namespace ProverLink

/-- A query to the checker. -/
structure Query where
  name : Text
  args : Fields
  id : Option Text := none

namespace Query

/-- Gives the checker the contents of the file it works on. -/
def vfsAdd (contents : String) : Query :=
  { name := Text.ofString "vfs-add"
    args := [(Text.ofString "filename", .null),
      (Text.ofString "contents", .str (Text.ofString contents))] }

/-- Asks the checker to check a text from its beginning. -/
def fullBuffer (code : String) : Query :=
  { name := Text.ofString "full-buffer"
    args := [(Text.ofString "kind", .str (Text.ofString "full")),
      (Text.ofString "code", .str (Text.ofString code)),
      (Text.ofString "line", .int 0), (Text.ofString "column", .int 0)] }

/-- The id of a query as JSON. -/
def idJson (q : Query) : Json :=
  match q.id with
  | some t => .str t
  | none => .null

/-- A query as a JSON object. Surrogates in the names of arguments are replaced. -/
def toJson (q : Query) : Json :=
  .obj [(Text.ofString "query", .str q.name),
    (Text.ofString "args", .obj (q.args.map fun a => (a.1.mended, a.2))),
    (Text.ofString "query-id", q.idJson)]

/-- The first reason why a query cannot be written. The depth is counted in each argument by
itself. -/
def unwritable? (q : Query) : Option Json.Unwritable :=
  let values := .str q.name :: q.args.map (·.2) ++ [q.idJson]
  values.findSome? (Json.unwritable? Json.maxDepth)

/-- A query as a line. -/
def toLine (q : Query) : Except Fault (List Char) :=
  match q.unwritable? with
  | some u => .error (.unwritable u)
  | none => .ok (q.toJson.compact.filterMap CodePoint.toChar? ++ ['\n'])

/-- A query with a number as its id. -/
def stamp (q : Query) (n : Nat) : Query :=
  { q with id := some (Text.ofChars (Decimal.natChars n)) }

/-- The fields of a JSON object as arguments. -/
def argsOf : Json → Checked Fields
  | .obj fields => .ok fields
  | _ => Checked.fail

/-- The query that a value gives; fields that are not declared are dropped. -/
def ofJson : Json → Checked Query
  | .obj fields =>
    Checked.map3 Query.mk (Checked.required fields "query" Checked.text)
      (Checked.required fields "args" argsOf)
      (Checked.optional fields (Checked.idName fields) none (Checked.nullable Checked.text))
  | _ => Checked.fail

end Query

end ProverLink
