import ProverLink.Fault
import ProverLink.Message.Basic

/-!
# Positions in an editor

An editor counts lines and characters from zero, in 31 bits. The checker counts lines from one and
columns from zero, in any integers, so not every coordinate is a position.
-/

namespace ProverLink

/-- A position in a document. -/
structure Position where
  line : Nat
  character : Nat
deriving DecidableEq

/-- A stretch of a document. -/
structure Range where
  start : Position
  stop : Position
deriving DecidableEq

namespace Position

/-- The greatest line or character. -/
def limit : Nat := 2147483647

/-- A number that an editor takes for a line or a character. If a number outside the range is too
long to be written, that is the fault. -/
def checked (name : String) (v : Int) : Except Fault Nat :=
  if 0 ≤ v && v ≤ limit then .ok v.toNat
  else if Decimal.isTooLong v then .error (.tooManyDigits none)
  else .error (.outOfRange name v)

/-- The position of a coordinate; the line is looked at first. -/
def ofCoordinate (c : Coordinate) : Except Fault Position := do
  let line ← checked "Position.line" (c.line - 1)
  let character ← checked "Position.character" c.column
  .ok { line, character }

/-- The first position of a document. -/
def zero : Position := { line := 0, character := 0 }

/-- A position in a message. -/
def text (p : Position) : String := Decimal.render p.line ++ ":" ++ Decimal.render p.character

end Position

/-- The coordinate that a list of integers starts with. -/
def Coordinate.ofList : List Int → Except Fault Coordinate
  | line :: column :: _ => .ok { line, column }
  | _ => .error .coordinateMissing

namespace Range

/-- The range between two coordinates; the first one is looked at first. -/
def ofCoordinates (start stop : Coordinate) : Except Fault Range := do
  let start ← Position.ofCoordinate start
  let stop ← Position.ofCoordinate stop
  .ok { start, stop }

/-- The range between two places that are given as lists of integers. -/
def ofLists (start stop : List Int) : Except Fault Range := do
  let start ← (Coordinate.ofList start).bind Position.ofCoordinate
  let stop ← (Coordinate.ofList stop).bind Position.ofCoordinate
  .ok { start, stop }

/-- The beginning of a document. -/
def documentStart : Range := { start := .zero, stop := .zero }

/-- A range in a message. -/
def text (r : Range) : String := r.start.text ++ "-" ++ r.stop.text

end Range

end ProverLink
