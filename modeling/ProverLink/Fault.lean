import ProverLink.File.Tree
import ProverLink.Json.Display
import ProverLink.Limits
import ProverLink.Uri.Location

/-!
# Faults

Why an operation is broken off. A fault names its cause; `Fault.message` is the one place for the
wording.
-/

namespace ProverLink

/-- What a pipe to or from a process reports instead of doing its work. -/
inductive PipeError where
  | os (e : OsError)
  | value (text : String)
  | other (text : String)
deriving DecidableEq

/-- The wording of an error of a pipe. -/
def PipeError.message : PipeError → String
  | .os e => e.message
  | .value text => text
  | .other text => text

/-- Why an operation is broken off. -/
inductive Fault where
  /-- A pipe failed in a way that nobody handles. -/
  | pipe (e : PipeError)
  /-- A file cannot be opened. -/
  | file (e : OsError)
  /-- A process takes no more input. -/
  | transport (e : PipeError)
  /-- A process cannot be started. -/
  | spawn (executable : String) (e : OsError)
  /-- A state that was thought impossible, with what is known about it. -/
  | impossible (reason : String) (details : Fields)
  /-- Details about such a state under the name that the reason itself has. -/
  | reasonTwice
  /-- An integer with too many digits; the count is known if it was read. -/
  | tooManyDigits (count : Option Nat)
  /-- Values that are nested too deeply. -/
  | tooDeep (n : Nesting)
  /-- A line or a character outside the range that editors take. -/
  | outOfRange (name : String) (value : Int)
  /-- A place without a line or without a column. -/
  | coordinateMissing
  | uri (p : Uri.Problem)
  | undecodable (r : Utf8.Refusal)
  /-- A value that is to be written and cannot be. -/
  | unwritable (u : Json.Unwritable)
  /-- A path with a character that ends paths. -/
  | nullInPath

namespace Fault

/-- The fault at a state that was thought impossible. -/
def ofImpossible (reason : String) (details : Fields) : Fault :=
  if (details.get? (Text.ofString "reason")).isSome then .reasonTwice
  else .impossible reason details

/-- The wording for an integer with too many digits. -/
def digitsMessage (count : Option Nat) : String :=
  "Exceeds the limit (" ++ Decimal.render Decimal.maxDigits ++
    " digits) for integer string conversion" ++
    ((count.map fun (n : Nat) => ": value has " ++ Decimal.render n ++ " digits").getD "") ++
    "; use sys.set_int_max_str_digits() to increase the limit"

/-- The wording for values that are nested too deeply. -/
def nestingMessage (n : Nesting) : String :=
  "maximum recursion depth exceeded" ++
    match n with
    | .array => " while decoding a JSON array from a unicode string"
    | .object => " while decoding a JSON object from a unicode string"
    | .setting => ""
    | .shown => " while getting the repr of an object"

/-- Details sorted by name, each with its value. -/
def detailsText (details : Fields) : Text :=
  let sorted := details.mergeSort fun a b => a.1.le b.1
  let shown := sorted.map fun d => d.1 ++ Text.ofString ("=" ++ d.2.display)
  (shown.intersperse (Text.ofString ", ")).flatten

/-- The wording for a state that was thought impossible. -/
def impossibleText (reason : String) (details : Fields) : Text :=
  let reason := Text.ofString (if reason.isEmpty then "never() marker reached" else reason)
  if details.isEmpty then reason
  else reason ++ Text.ofString " (" ++ detailsText details ++ Text.ofString ")"

/-- The wording for bytes that are not UTF-8. -/
def refusalMessage (r : Utf8.Refusal) : String :=
  let place :=
    if r.count = 1 then
      "byte 0x" ++ String.ofList (Digit.hexDigits 2 r.byte.toNat) ++ " in position " ++
        Decimal.render r.position
    else
      "bytes in position " ++ Decimal.render r.position ++ "-" ++
        Decimal.render (r.position + r.count - 1)
  "'utf-8' codec can't decode " ++ place ++ ": " ++ r.reason.message

/-- The wording for a text with surrogates: where the first run of them is. -/
def surrogateMessage (t : Text) : String :=
  let position := (t.takeWhile fun p => !p.isSurrogate).length
  let run := (t.drop position).takeWhile (·.isSurrogate)
  let place :=
    match run with
    | [p] => "character " ++ Quoted.quote [p] ++ " in position " ++ Decimal.render position
    | _ =>
      "characters in position " ++ Decimal.render position ++ "-" ++
        Decimal.render (position + run.length - 1)
  "UnicodeEncodeError: 'utf-8' codec can't encode " ++ place ++ ": surrogates not allowed"

/-- The wording for a value that cannot be written. -/
def unwritableMessage (u : Json.Unwritable) : String :=
  "Error serializing to JSON: " ++
    match u with
    | .surrogate t => surrogateMessage t
    | .tooDeep => "ValueError: Maximum serialization depth exceeded"

/-- The wording for a process that takes no more input. -/
def transportMessage (e : PipeError) : String := "F* process stopped accepting input: " ++ e.message

/-- The wording for a process that cannot be started. -/
def spawnMessage (executable : String) (e : OsError) : String :=
  "Could not start " ++ executable ++ ": " ++ e.message

/-- The wording of a fault. -/
def message : Fault → Text
  | .pipe e => Text.ofString e.message
  | .file e => Text.ofString e.message
  | .transport e => Text.ofString (transportMessage e)
  | .spawn executable e => Text.ofString (spawnMessage executable e)
  | .impossible reason details => impossibleText reason details
  | .reasonTwice => Text.ofString "never() got multiple values for argument 'reason'"
  | .tooManyDigits count => Text.ofString (digitsMessage count)
  | .tooDeep n => Text.ofString (nestingMessage n)
  | .outOfRange name v =>
    Text.ofString
      (name ++ " should be in range [0:2147483647], but was " ++ Decimal.render v ++ ".")
  | .coordinateMissing => Text.ofString "list index out of range"
  | .uri p => Text.ofString p.message
  | .undecodable r => Text.ofString (refusalMessage r)
  | .unwritable u => Text.ofString (unwritableMessage u)
  | .nullInPath => Text.ofString "embedded null byte"

end Fault

end ProverLink
