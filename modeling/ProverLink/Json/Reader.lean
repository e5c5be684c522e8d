import ProverLink.Limits
import ProverLink.Text.Scan

/-!
# Reading JSON

`Json.read` reads one value from a line. Besides the standard it takes the numbers `NaN`, `Infinity`
and `-Infinity`; a repeated field name counts with its last value; an escape may name a lone
surrogate. What cannot be read is reported with its place. Reading is broken off at an integer with
too many digits, and where arrays and objects are nested too deeply.

The functions on the way there return the characters they leave, and name a place by the number of
characters from it to the end.
-/

namespace ProverLink.Json

/-- What is missing or wrong at a place. -/
inductive Problem where
  | byteOrderMark
  | value
  | propertyName
  | colon
  | comma
  | unterminated
  | controlCharacter
  | escape
  | unicodeEscape
  | extraData
deriving DecidableEq

/-- The wording of a problem. -/
def Problem.message : Problem → String
  | .byteOrderMark => "Unexpected UTF-8 BOM (decode using utf-8-sig)"
  | .value => "Expecting value"
  | .propertyName => "Expecting property name enclosed in double quotes"
  | .colon => "Expecting ':' delimiter"
  | .comma => "Expecting ',' delimiter"
  | .unterminated => "Unterminated string starting at"
  | .controlCharacter => "Invalid control character at"
  | .escape => "Invalid \\escape"
  | .unicodeEscape => "Invalid \\uXXXX escape"
  | .extraData => "Extra data"

/-- Why reading stopped: a problem, with the number of characters from its place to the end, an
integer with too many digits, or values that are nested too deeply. -/
inductive Stop where
  | problem (p : Problem) (remaining : Nat)
  | tooManyDigits (count : Nat)
  | tooDeep (n : Nesting)
deriving DecidableEq

/-- Why a text is not read as JSON. -/
inductive ReadError where
  | malformed (p : Problem) (line column offset : Nat)
  | tooManyDigits (count : Nat)
  | tooDeep (n : Nesting)
deriving DecidableEq

/-- The white space of JSON. -/
def isSpace (c : Char) : Bool := c = ' ' || c = '\t' || c = '\n' || c = '\r'

/-- Drops white space. -/
def skip (cs : List Char) : List Char := cs.dropWhile isSpace

/-- The code point of a one-letter escape. -/
def escaped? : Char → Option CodePoint
  | '"' => some (.ofChar '"')
  | '\\' => some (.ofChar '\\')
  | '/' => some (.ofChar '/')
  | 'b' => some (.ofChar '\x08')
  | 'f' => some (.ofChar '\x0c')
  | 'n' => some (.ofChar '\n')
  | 'r' => some (.ofChar '\r')
  | 't' => some (.ofChar '\t')
  | _ => none

/-- The number that four hexadecimal digits stand for. -/
def hex4? (a b c d : Char) : Option Nat := do
  let w ← Digit.hex? a
  let x ← Digit.hex? b
  let y ← Digit.hex? c
  let z ← Digit.hex? d
  pure (((w * 16 + x) * 16 + y) * 16 + z)

/-- The code points up to the closing quote, each escape standing for one. `opening` is the place of
the opening quote. An escape of four digits needs a character behind it. -/
def codePoints (opening : Nat) : List Char → Except Stop (Text × List Char)
  | [] => .error (.problem .unterminated opening)
  | '"' :: rest => .ok ([], rest)
  | ['\\'] => .error (.problem .unterminated opening)
  | '\\' :: 'u' :: a :: b :: c :: d :: e :: rest =>
    match hex4? a b c d with
    | none => .error (.problem .unicodeEscape (rest.length + 6))
    | some n => do
      let (t, r) ← codePoints opening (e :: rest)
      .ok (.ofNat n :: t, r)
  | '\\' :: 'u' :: rest => .error (.problem .unicodeEscape (rest.length + 1))
  | '\\' :: c :: rest =>
    match escaped? c with
    | none => .error (.problem .escape (rest.length + 2))
    | some p => do
      let (t, r) ← codePoints opening rest
      .ok (p :: t, r)
  | c :: rest =>
    if c.toNat < 0x20 then .error (.problem .controlCharacter (rest.length + 1))
    else do
      let (t, r) ← codePoints opening rest
      .ok (.ofChar c :: t, r)

/-- A string, its opening quote being read already. -/
def stringBody (cs : List Char) : Except Stop (Text × List Char) := do
  let (t, rest) ← codePoints (cs.length + 1) cs
  .ok (t.joinPairs, rest)

/-- The digits of the fraction, if there is one. -/
def fraction : List Char → List Nat × List Char
  | '.' :: rest =>
    match Binary64.spanDigits rest with
    | ([], _) => ([], '.' :: rest)
    | (ds, r) => (ds, r)
  | cs => ([], cs)

/-- Digits of an exponent behind its sign; `cs` is what is left if there are none. -/
def exponentDigits (negative : Bool) (cs body : List Char) : Option Int × List Char :=
  match Binary64.spanDigits body with
  | ([], _) => (none, cs)
  | (ds, rest) => (some (Decimal.signed negative (Decimal.ofDigits ds)), rest)

/-- The exponent, if there is one. -/
def exponent (cs : List Char) : Option Int × List Char :=
  match cs with
  | c :: '-' :: rest => if c = 'e' || c = 'E' then exponentDigits true cs rest else (none, cs)
  | c :: '+' :: rest => if c = 'e' || c = 'E' then exponentDigits false cs rest else (none, cs)
  | c :: rest => if c = 'e' || c = 'E' then exponentDigits false cs rest else (none, cs)
  | [] => (none, [])

/-- The whole digits of a number: a zero, or digits that do not start with one. -/
def whole? : List Char → Option (List Nat × List Char)
  | '0' :: rest => some ([0], rest)
  | cs =>
    match Binary64.spanDigits cs with
    | ([], _) => none
    | (ds, rest) => some (ds, rest)

/-- A number; `start` is its place. -/
def number (start : Nat) (negative : Bool) (cs : List Char) : Except Stop (Json × List Char) :=
  match whole? cs with
  | none => .error (.problem .value start)
  | some (ds, rest) =>
    let (fs, rest) := fraction rest
    let (e?, rest) := exponent rest
    if fs.isEmpty && e?.isNone then
      if Decimal.maxDigits < ds.length then .error (.tooManyDigits ds.length)
      else .ok (.int (Decimal.signed negative (Decimal.ofDigits ds)), rest)
    else
      let n : Binary64.Numeral := { whole := ds, fraction := fs, exponent := e?.getD 0 }
      .ok (.float (n.value negative), rest)

/-- The values that are written as words. -/
def words : List (String × Json) :=
  [("null", .null), ("true", .bool true), ("false", .bool false), ("NaN", .float .nan),
    ("Infinity", .float (.infinity false)), ("-Infinity", .float (.infinity true))]

/-- A word, a number, or nothing of either. -/
def scalar (cs : List Char) : Except Stop (Json × List Char) :=
  match words.findSome? fun w => (Scan.after? w.1.toList cs).map fun rest => (w.2, rest) with
  | some r => .ok r
  | none =>
    match cs with
    | '-' :: rest => number cs.length true rest
    | _ => number cs.length false cs

/-- The room inside an array or an object, where there is any. -/
def inside (n : Nesting) : Nat → Except Stop Nat
  | 0 => .error (.tooDeep n)
  | room + 1 => .ok room

mutual

/-- A value, with room for so many arrays and objects inside each other. Every call costs one unit
of fuel; `2 * cs.length + 1` units are enough. -/
def value : Nat → Nat → List Char → Except Stop (Json × List Char)
  | 0, _, cs => .error (.problem .value cs.length)
  | fuel + 1, room, cs =>
    match cs with
    | '"' :: rest => do
      let (t, r) ← stringBody rest
      .ok (.str t, r)
    | '[' :: rest => do
      let room ← inside .array room
      match skip rest with
      | ']' :: r => .ok (.arr [], r)
      | r => do
        let (vs, r) ← elements fuel room r
        .ok (.arr vs, r)
    | '\x7b' :: rest => do
      let room ← inside .object room
      match skip rest with
      | '\x7d' :: r => .ok (.obj [], r)
      | r => do
        let (ms, r) ← members fuel room r
        .ok (.obj (Fields.ofPairs ms), r)
    | _ => scalar cs

/-- The elements of an array up to its closing bracket; there is at least one. -/
def elements : Nat → Nat → List Char → Except Stop (List Json × List Char)
  | 0, _, cs => .error (.problem .value cs.length)
  | fuel + 1, room, cs => do
    let (v, rest) ← value fuel room cs
    match skip rest with
    | ']' :: r => .ok ([v], r)
    | ',' :: r => do
      let (vs, r) ← elements fuel room (skip r)
      .ok (v :: vs, r)
    | r => .error (.problem .comma r.length)

/-- The members of an object up to its closing brace; there is at least one. -/
def members : Nat → Nat → List Char → Except Stop (List (Text × Json) × List Char)
  | 0, _, cs => .error (.problem .propertyName cs.length)
  | fuel + 1, room, cs =>
    match cs with
    | '"' :: body => do
      let (name, rest) ← stringBody body
      match skip rest with
      | ':' :: r => do
        let (v, rest) ← value fuel room (skip r)
        match skip rest with
        | '\x7d' :: r => .ok ([(name, v)], r)
        | ',' :: r => do
          let (ms, r) ← members fuel room (skip r)
          .ok ((name, v) :: ms, r)
        | r => .error (.problem .comma r.length)
      | r => .error (.problem .colon r.length)
    | _ => .error (.problem .propertyName cs.length)

end

/-- One value with white space around it. -/
def document [Limits] (cs : List Char) : Except Stop Json :=
  if cs.head? = some '\uFEFF' then .error (.problem .byteOrderMark cs.length)
  else do
    let start := skip cs
    let (v, rest) ← value (2 * start.length + 1) Limits.json start
    match skip rest with
    | [] => .ok v
    | r => .error (.problem .extraData r.length)

/-- A stop with its place in the text. -/
def Stop.locate (cs : List Char) : Stop → ReadError
  | .tooManyDigits count => .tooManyDigits count
  | .tooDeep n => .tooDeep n
  | .problem p remaining =>
    let offset := cs.length - remaining
    let (line, column) := Scan.lineAndColumn (cs.take offset)
    .malformed p line column offset

/-- Reads one value. -/
def read [Limits] (cs : List Char) : Except ReadError Json :=
  (document cs).mapError (Stop.locate cs)

end ProverLink.Json
