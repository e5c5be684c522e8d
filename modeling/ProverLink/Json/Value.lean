import ProverLink.Number.Binary64

/-!
# JSON values

Values as the checker sends them. Integers and binary floating point numbers are kept apart, and the
fields of an object keep the order in which their names first occurred.
-/

namespace ProverLink

/-- A JSON value. -/
inductive Json where
  | null
  | bool (b : Bool)
  | int (i : Int)
  | float (x : Binary64)
  | str (t : Text)
  | arr (items : List Json)
  | obj (fields : List (Text × Json))

/-- The fields of an object, each name once. -/
abbrev Fields := List (Text × Json)

namespace Fields

/-- The value of a field. -/
def get? (fields : Fields) (name : Text) : Option Json :=
  (fields.find? fun f => f.1 = name).map (·.2)

/-- Sets a field: in place if the name is there, and at the end otherwise. -/
def put : Fields → Text → Json → Fields
  | [], name, v => [(name, v)]
  | (n, w) :: rest, name, v => if n = name then (n, v) :: rest else (n, w) :: put rest name v

theorem get?_put (fields : Fields) (name other : Text) (v : Json) :
    (fields.put name v).get? other = if name = other then some v else fields.get? other := by
  induction fields with
  | nil => by_cases h : name = other <;> simp [put, get?, h]
  | cons f rest ih =>
    obtain ⟨n, w⟩ := f
    simp only [get?] at ih
    by_cases hn : n = name
    · subst hn
      by_cases h : n = other <;> simp [put, get?, h]
    · by_cases h : n = other
      · subst h
        simp [put, get?, hn, Ne.symm hn]
      · simp [put, get?, hn, h, ih]

/-- The fields that pairs of names and values give, a later value replacing an earlier one. -/
def ofPairs (pairs : List (Text × Json)) : Fields :=
  pairs.foldl (fun fields p => put fields p.1 p.2) []

/-- The fields whose name is none of those given. -/
def without (fields : Fields) (names : List Text) : Fields :=
  fields.filter fun f => !names.contains f.1

end Fields

namespace Json

/-- The word for the kind of a value. -/
def typeName : Json → String
  | .null => "NoneType"
  | .bool _ => "bool"
  | .int _ => "int"
  | .float _ => "float"
  | .str _ => "str"
  | .arr _ => "list"
  | .obj _ => "dict"

end Json

end ProverLink
