import ProverLink.Text.Digit
import ProverLink.Text.Printable
import ProverLink.Text.CodePoint

/-!
# Quoted texts

How a text is shown inside a message: between single quotes, or double ones if it holds a single
quote and no double one. The quote and the backslash are escaped, and so is what is not printable.
A surrogate is not printable, so what is shown consists of characters whatever the text is.
-/

namespace ProverLink.Quoted

/-- The quote that a text is shown between. -/
def quoteFor (t : Text) : Char :=
  if t.any (·.val == '\''.toNat) && !t.any (·.val == '"'.toNat) then '"' else '\''

/-- A code point as it stands between quotes. -/
def escape (quote : Char) (p : CodePoint) : List Char :=
  let n := p.val
  if n == quote.toNat then ['\\', quote]
  else if n == '\\'.toNat then ['\\', '\\']
  else if n == '\n'.toNat then ['\\', 'n']
  else if n == '\r'.toNat then ['\\', 'r']
  else if n == '\t'.toNat then ['\\', 't']
  else if Printable.isPrintable n then [Char.ofNat n]
  else if n < 0x100 then '\\' :: 'x' :: Digit.hexDigits 2 n
  else if n < 0x10000 then '\\' :: 'u' :: Digit.hexDigits 4 n
  else '\\' :: 'U' :: Digit.hexDigits 8 n

/-- A text between quotes. -/
def quote (t : Text) : String :=
  let q := quoteFor t
  String.ofList (q :: t.flatMap (escape q) ++ [q])

/-- A string between quotes. -/
def quoteString (s : String) : String := quote (Text.ofString s)

end ProverLink.Quoted
