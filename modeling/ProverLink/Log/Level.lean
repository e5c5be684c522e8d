/-!
# Levels of the log

The levels by name. A name is looked up in upper case, where two letters outside ASCII have an ASCII
capital as well: the dotless i and the long s.
-/

namespace ProverLink

/-- How much a notice matters. -/
inductive Level where
  | debug
  | info
  | warning
  | error
deriving DecidableEq

namespace Level

/-- The name of a level. -/
def name : Level → String
  | .debug => "DEBUG"
  | .info => "INFO"
  | .warning => "WARNING"
  | .error => "ERROR"

/-- The weight of a level. -/
def weight : Level → Nat
  | .debug => 10
  | .info => 20
  | .warning => 30
  | .error => 40

/-- The threshold before any is chosen. -/
def initialThreshold : Nat := 30

/-- The thresholds that can be chosen by name. -/
def thresholds : List (String × Nat) :=
  [("CRITICAL", 50), ("FATAL", 50), ("ERROR", 40), ("WARN", 30), ("WARNING", 30), ("INFO", 20),
    ("DEBUG", 10), ("NOTSET", 0)]

/-- The capital of a letter, as far as the names need it. -/
def capital (c : Char) : Char :=
  if c = 'ı' then 'I' else if c = 'ſ' then 'S' else c.toUpper

/-- The threshold with a name, in any case. -/
def threshold? (name : String) : Option Nat :=
  let capitals := name.toList.map capital
  (thresholds.find? fun t => t.1.toList = capitals).map (·.2)

end Level

end ProverLink
