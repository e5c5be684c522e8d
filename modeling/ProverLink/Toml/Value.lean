import ProverLink.Limits
import ProverLink.Text.Quoted
import ProverLink.Toml.Moment

/-!
# TOML values

The values of a configuration file and their texts. `Toml.text` is the text that a value gives as an
argument of a command; inside a list or a table a value is shown as `Toml.display` says.
-/

namespace ProverLink

/-- A TOML value. The entries of a table keep their order. -/
inductive Toml where
  | str (s : String)
  | int (i : Int)
  | float (x : Binary64)
  | bool (b : Bool)
  | dateTime (d : Date) (t : Time) (offset : Option Int)
  | date (d : Date)
  | time (t : Time)
  | arr (items : List Toml)
  | table (entries : List (String × Toml))

/-- The entries of a table, each key once. -/
abbrev Table := List (String × Toml)

namespace Table

/-- The value under a key. -/
def get? (t : Table) (key : String) : Option Toml := (t.find? fun e => e.1 = key).map (·.2)

/-- Sets the value under a key: in place if the key is there, and at the end otherwise. -/
def put : Table → String → Toml → Table
  | [], key, v => [(key, v)]
  | (k, w) :: rest, key, v => if k = key then (k, v) :: rest else (k, w) :: put rest key v

end Table

namespace Toml

/-- Why a value has no text. -/
inductive Unshown where
  /-- It holds an integer with too many digits. -/
  | tooManyDigits
  /-- Values are nested too deeply. -/
  | tooDeep
deriving DecidableEq

/-- An integer as shown. -/
def displayInt (i : Int) : Except Unshown String :=
  (Decimal.render? i).elim (.error .tooManyDigits) .ok

mutual

/-- A value as shown inside a list or a table, with room for so many nested values. -/
def display : Nat → Toml → Except Unshown String
  | 0, _ => .error .tooDeep
  | _ + 1, .str s => .ok (Quoted.quoteString s)
  | _ + 1, .int i => displayInt i
  | _ + 1, .float x => .ok (Layout.display.render x)
  | _ + 1, .bool true => .ok "True"
  | _ + 1, .bool false => .ok "False"
  | _ + 1, .dateTime d t o => .ok (Moment.dateTimeDisplay d t o)
  | _ + 1, .date d => .ok (Moment.dateDisplay d)
  | _ + 1, .time t => .ok (Moment.timeDisplay t)
  | room + 1, .arr items =>
    (displayItems room items).map fun ss => "[" ++ ", ".intercalate ss ++ "]"
  | room + 1, .table entries =>
    (displayEntries room entries).map fun ss => "\x7b" ++ ", ".intercalate ss ++ "\x7d"

/-- The items of a list as shown. -/
def displayItems : Nat → List Toml → Except Unshown (List String)
  | _, [] => .ok []
  | room, v :: rest => do
    let s ← display room v
    let ss ← displayItems room rest
    .ok (s :: ss)

/-- The entries of a table as shown. -/
def displayEntries : Nat → List (String × Toml) → Except Unshown (List String)
  | _, [] => .ok []
  | room, (key, v) :: rest => do
    let s ← display room v
    let ss ← displayEntries room rest
    .ok ((Quoted.quoteString key ++ ": " ++ s) :: ss)

end

/-- The text of a value. -/
def text [Limits] : Toml → Except Unshown String
  | .str s => .ok s
  | .dateTime d t o => .ok (Moment.dateTimeText d t o)
  | .date d => .ok (Moment.dateText d)
  | .time t => .ok (Moment.timeText t)
  | v => display Limits.shown v

end Toml

end ProverLink
