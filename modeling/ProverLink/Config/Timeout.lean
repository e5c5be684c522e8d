import ProverLink.Json.Value
import ProverLink.Toml.Value

/-!
# Timeouts

A timeout is a number above zero, given as a number or as the text of one.
-/

namespace ProverLink

/-- A setting, as far as a timeout can come from it. -/
inductive Setting where
  | text (t : Text)
  | int (i : Int)
  | float (x : Binary64)
  | other

namespace Setting

/-- A value of a configuration file as a setting. -/
def ofToml : Toml → Setting
  | .str s => .text (Text.ofString s)
  | .int i => .int i
  | .float x => .float x
  | _ => .other

/-- A JSON value as a setting. -/
def ofJson : Json → Setting
  | .str t => .text t
  | .int i => .int i
  | .float x => .float x
  | _ => .other

/-- The number that a setting stands for. -/
def number? : Setting → Option Binary64
  | .text t => Binary64.read? (Blank.trim (fun p => Blank.isBlank p.val) t)
  | .int i => if Decimal.isTooLong i then none else some (.ofInt i)
  | .float x => some x
  | .other => none

/-- The timeout that a setting stands for. -/
def timeout? (s : Setting) : Option Binary64 := s.number?.filter (·.isPositive)

end Setting

end ProverLink
