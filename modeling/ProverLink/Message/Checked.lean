import ProverLink.Json.Value

/-!
# Checked values

Shapes of JSON values are checked field by field, and the errors of all fields are counted. A
`Checked α` is the value that was wanted or the number of errors.
-/

namespace ProverLink

/-- A value of the wanted shape, or the number of errors. -/
abbrev Checked (α : Type) := Except Nat α

namespace Checked

variable {α β γ δ : Type}

/-- One error. -/
def fail : Checked α := .error 1

/-- Applies a function that was checked to an argument that was checked; errors add up. -/
def app : Checked (α → β) → Checked α → Checked β
  | .ok f, .ok a => .ok (f a)
  | .ok _, .error n => .error n
  | .error m, .ok _ => .error m
  | .error m, .error n => .error (m + n)

/-- Builds a value from two parts; errors add up. -/
def map2 (f : α → β → γ) (a : Checked α) (b : Checked β) : Checked γ := app (a.map f) b

/-- Builds a value from three parts; errors add up. -/
def map3 (f : α → β → γ → δ) (a : Checked α) (b : Checked β) (c : Checked γ) : Checked δ :=
  app (map2 f a b) c

/-- Checks the items of a list one by one; errors add up. -/
def all (check : α → Checked β) : List α → Checked (List β)
  | [] => .ok []
  | a :: rest => map2 List.cons (check a) (all check rest)

/-- A field that may be missing. -/
def optional (fields : Fields) (name : String) (default : α) (check : Json → Checked α) :
    Checked α :=
  match fields.get? (Text.ofString name) with
  | none => .ok default
  | some v => check v

/-- A field that has to be there. -/
def required (fields : Fields) (name : String) (check : Json → Checked α) : Checked α :=
  match fields.get? (Text.ofString name) with
  | none => fail
  | some v => check v

/-- The name under which an object gives an id. -/
def idName (fields : Fields) : String :=
  if (fields.get? (Text.ofString "query-id")).isSome then "query-id" else "query_id"

/-- Any value. -/
def anything (v : Json) : Checked Json := .ok v

/-- A text. -/
def text : Json → Checked Text
  | .str t => .ok t
  | _ => fail

/-- A given word. -/
def word (w : String) : Json → Checked Unit
  | .str t => if t = Text.ofString w then .ok () else fail
  | _ => fail

/-- Null, or a value that passes a check. -/
def nullable (check : Json → Checked α) : Json → Checked (Option α)
  | .null => .ok none
  | v => (check v).map some

/-- An array whose items pass a check. -/
def list (check : Json → Checked α) : Json → Checked (List α)
  | .arr items => all check items
  | _ => fail

/-- The integer that a number is, strictly inside the range of 64 bits. -/
def wordInt? (x : Binary64) : Option Int :=
  x.toInt?.filter fun i => i.natAbs < Nat.pow 2 63

/-- An integer, or a truth value, a number or a text that stands for one. -/
def integer : Json → Checked Int
  | .int i => .ok i
  | .bool b => .ok (if b then 1 else 0)
  | .float x => match wordInt? x with
    | some i => .ok i
    | none => fail
  | .str t => match Decimal.readPlain? t with
    | some i => .ok i
    | none => fail
  | _ => fail

/-- An array of two values. What is missing counts as an error each; with more than two values
nothing else counts. -/
def pair (check : Json → Checked α) (make : α → α → β) : Json → Checked β
  | .arr [a, b] => map2 make (check a) (check b)
  | .arr [a] => map2 make (check a) fail
  | .arr [] => .error 2
  | _ => fail

/-- Adds the fields that are not declared. A name among them that is no string of characters is one
error, whatever else is wrong. -/
def withExtra (extra : Fields) (c : Checked (Fields → α)) : Checked α :=
  if extra.any fun f => f.1.hasSurrogate then fail else c.map (· extra)

end Checked

end ProverLink
