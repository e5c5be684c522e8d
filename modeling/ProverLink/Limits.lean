import ProverLink.Json.Compact

/-!
# Limits

Values that are nested too deeply are not read and not shown. How deeply they may be nested depends
on the machine, so the limits are given from outside; what is known of them is that every value that
is written can be read again, and that a value without parts can be shown.
-/

namespace ProverLink

/-- How deeply values may be nested. -/
class Limits where
  /-- How many arrays and objects may be open at once while a line is read. It is the same for every
  line, and what is read within it can be shown in a notice. -/
  json : Nat
  /-- How many calls there is room for while a value of a configuration file is read. An array takes
  two and an inline table three, for as long as they are open; the few that blanks, keys and values
  without parts take are not counted. -/
  toml : Nat
  /-- How many values may be nested where one is shown, the outermost and the innermost included. -/
  shown : Nat
  /-- A query is an object that holds an object with values of this depth. -/
  maxDepth_le_json : Json.maxDepth + 2 ≤ json
  shown_pos : 0 < shown

/-- The limits of a machine on which nobody has changed them. -/
instance : Limits where
  json := 990
  toml := 990
  shown := 980
  maxDepth_le_json := by decide
  shown_pos := by decide

/-- What is nested too deeply. -/
inductive Nesting where
  /-- An array in a line. -/
  | array
  /-- An object in a line. -/
  | object
  /-- A value in a configuration file. -/
  | setting
  /-- A value that is to be shown. -/
  | shown
deriving DecidableEq

end ProverLink
