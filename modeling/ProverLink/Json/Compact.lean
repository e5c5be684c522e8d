import ProverLink.Json.Value
import ProverLink.Number.Shortest

/-!
# Writing JSON on one line

`Json.compact` writes a value without white space. Quote, backslash and the control characters
below U+0020 are escaped, everything else stands for itself, so the result has no line break. A
number that is not finite is written as null. `Json.unwritable?` says why a value cannot be sent: it
holds a surrogate, or its nesting is too deep.
-/

namespace ProverLink.Json

/-- A code point inside a string. -/
def escape (p : CodePoint) : Text :=
  let n := p.val
  if n == '"'.toNat then Text.ofString "\\\""
  else if n == '\\'.toNat then Text.ofString "\\\\"
  else if n == 0x08 then Text.ofString "\\b"
  else if n == 0x09 then Text.ofString "\\t"
  else if n == 0x0A then Text.ofString "\\n"
  else if n == 0x0C then Text.ofString "\\f"
  else if n == 0x0D then Text.ofString "\\r"
  else if n < 0x20 then Text.ofChars ('\\' :: 'u' :: Digit.hexDigits 4 n)
  else [p]

/-- A string between quotes. -/
def compactText (t : Text) : Text :=
  .ofChar '"' :: t.flatMap escape ++ [.ofChar '"']

mutual

/-- A value on one line. -/
def compact : Json → Text
  | .null => Text.ofString "null"
  | .bool true => Text.ofString "true"
  | .bool false => Text.ofString "false"
  | .int i => Text.ofChars (Decimal.intChars i)
  | .float x => Text.ofChars (Layout.wire.chars x)
  | .str t => compactText t
  | .arr items => .ofChar '[' :: compactItems items ++ [.ofChar ']']
  | .obj fields => .ofChar '\x7b' :: compactFields fields ++ [.ofChar '\x7d']

/-- Elements with commas between them. -/
def compactItems : List Json → Text
  | [] => []
  | [v] => compact v
  | v :: w :: rest => compact v ++ .ofChar ',' :: compactItems (w :: rest)

/-- Fields with commas between them. -/
def compactFields : List (Text × Json) → Text
  | [] => []
  | [(name, v)] => compactText name ++ .ofChar ':' :: compact v
  | (name, v) :: f :: rest =>
    compactText name ++ .ofChar ':' :: compact v ++ .ofChar ',' :: compactFields (f :: rest)

end

/-! ### What cannot be written -/

/-- Why a value cannot be written. -/
inductive Unwritable where
  /-- A text holds a surrogate. -/
  | surrogate (t : Text)
  /-- Values are nested too deeply. -/
  | tooDeep

/-- How many values may be nested, the outermost and the innermost included. -/
def maxDepth : Nat := 255

/-- What is wrong with a text that is to be written. -/
def unwritableText? (t : Text) : Option Unwritable :=
  if t.hasSurrogate then some (.surrogate t) else none

mutual

/-- The first reason, in the order of writing, why a value cannot be written with room for so many
nested values. -/
def unwritable? : Nat → Json → Option Unwritable
  | 0, _ => some .tooDeep
  | _ + 1, .str t => unwritableText? t
  | room + 1, .arr items => unwritableItem? room items
  | room + 1, .obj fields => unwritableField? room fields
  | _ + 1, _ => none

/-- The first such reason in some elements. -/
def unwritableItem? : Nat → List Json → Option Unwritable
  | _, [] => none
  | room, v :: rest => (unwritable? room v).or (unwritableItem? room rest)

/-- The first such reason in some fields, names included. -/
def unwritableField? : Nat → List (Text × Json) → Option Unwritable
  | _, [] => none
  | room, (name, v) :: rest =>
    ((unwritableText? name).or (unwritable? room v)).or (unwritableField? room rest)

end

end ProverLink.Json
