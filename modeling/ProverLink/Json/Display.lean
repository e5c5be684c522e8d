import ProverLink.Json.Value
import ProverLink.Number.Shortest
import ProverLink.Text.Quoted

/-!
# JSON values in messages

How a value is shown to a person: quoted texts, lists between brackets and objects between braces,
with a comma and a blank between the parts.
-/

namespace ProverLink.Json

mutual

/-- A value as shown in a message. -/
def display : Json → String
  | .null => "None"
  | .bool true => "True"
  | .bool false => "False"
  | .int i => Decimal.render i
  | .float x => Layout.display.render x
  | .str t => Quoted.quote t
  | .arr items => "[" ++ ", ".intercalate (displayItems items) ++ "]"
  | .obj fields => "\x7b" ++ ", ".intercalate (displayFields fields) ++ "\x7d"

/-- The elements of a list as shown in a message. -/
def displayItems : List Json → List String
  | [] => []
  | v :: rest => display v :: displayItems rest

/-- The fields of an object as shown in a message. -/
def displayFields : List (Text × Json) → List String
  | [] => []
  | (name, v) :: rest => (Quoted.quote name ++ ": " ++ display v) :: displayFields rest

end

end ProverLink.Json
