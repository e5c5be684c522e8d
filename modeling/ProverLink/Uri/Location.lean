import ProverLink.File.Path
import ProverLink.Text.Quoted
import ProverLink.Text.Utf8
import ProverLink.Uri.Host

/-!
# From URIs to paths

The path that the URI of a document leads to. The path of a `file` URI is taken out of percent
encoding; any other URI counts as a path itself. What stands between `//` and the path is not used,
but it has to be well formed.
-/

namespace ProverLink.Uri

/-- Why a URI is refused. -/
inductive Problem where
  | brackets
  | futureAddress
  | plainAddress
  | noAddress (host : String)
  | hiddenDelimiter (authority : String)
deriving DecidableEq

/-- The wording of a refusal. -/
def Problem.message : Problem → String
  | .brackets => "Invalid IPv6 URL"
  | .futureAddress => "IPvFuture address is invalid"
  | .plainAddress => "An IPv4 address cannot be in brackets"
  | .noAddress host =>
    Quoted.quoteString host ++ " does not appear to be an IPv4 or IPv6 address"
  | .hiddenDelimiter authority =>
    "netloc '" ++ authority ++ "' contains invalid characters under NFKC normalization"

/-- The characters whose compatibility decomposition holds one of the delimiters `/?#@:`. -/
def delimiterLike : List Nat :=
  [0x2047, 0x2048, 0x2049, 0x2100, 0x2101, 0x2105, 0x2106, 0x2A74, 0xFE13, 0xFE16, 0xFE55, 0xFE56,
    0xFE5F, 0xFE6B, 0xFF03, 0xFF0F, 0xFF1A, 0xFF1F, 0xFF20]

/-- An ASCII letter. -/
def isLetter (c : Char) : Bool := ('a' ≤ c && c ≤ 'z') || ('A' ≤ c && c ≤ 'Z')

/-- A character of a scheme. -/
def isSchemeChar (c : Char) : Bool :=
  isLetter c || Digit.isAscii c || c = '+' || c = '-' || c = '.'

/-- Drops control characters and blanks in front, and tabs and line breaks everywhere. -/
def clean (cs : List Char) : List Char :=
  (cs.dropWhile fun c => c.toNat ≤ 0x20).filter fun c => c ≠ '\t' && c ≠ '\n' && c ≠ '\r'

/-- The scheme in lower case, if there is one, and what follows its colon. -/
def splitScheme (cs : List Char) : Option (List Char) × List Char :=
  let scheme := cs.takeWhile isSchemeChar
  match scheme, cs.drop scheme.length with
  | c :: _, ':' :: rest => if isLetter c then (some (scheme.map Char.toLower), rest) else (none, cs)
  | _, _ => (none, cs)

/-- Whether a character ends the authority. -/
def endsAuthority (c : Char) : Bool := c = '/' || c = '?' || c = '#'

/-- What stands between `//` and the path, and what follows it. -/
def splitAuthority : List Char → List Char × List Char
  | '/' :: '/' :: rest =>
    (rest.takeWhile fun c => !endsAuthority c, rest.dropWhile fun c => !endsAuthority c)
  | cs => ([], cs)

/-- What stands behind the last `@` of an authority. -/
def hostAndPort (authority : List Char) : List Char :=
  (authority.reverse.takeWhile (· ≠ '@')).reverse

/-- Checks an address between brackets. -/
def checkHost (host : List Char) : Except Problem Unit :=
  match host with
  | 'v' :: rest => if Host.isFuture rest then .ok () else .error .futureAddress
  | _ =>
    if Host.isIPv4 host then .error .plainAddress
    else if Host.isIPv6 host then .ok ()
    else .error (.noAddress (String.ofList host))

/-- Checks the host of an authority with brackets. A bracket begins the host, and behind its end
only a port may stand. -/
def checkBracketed (authority : List Char) : Except Problem Unit :=
  match hostAndPort authority with
  | '[' :: rest =>
    match (rest.dropWhile (· ≠ ']')).drop 1 with
    | [] => checkHost (rest.takeWhile (· ≠ ']'))
    | c :: _ => if c = ':' then checkHost (rest.takeWhile (· ≠ ']')) else .error .brackets
  | cs => if cs.contains '[' then .error .brackets else checkHost (cs.takeWhile (· ≠ ':'))

/-- Checks the brackets of an authority. -/
def checkBrackets (authority : List Char) : Except Problem Unit :=
  match authority.contains '[', authority.contains ']' with
  | false, false => .ok ()
  | true, true => checkBracketed authority
  | _, _ => .error .brackets

/-- Checks that no character of an authority stands for a delimiter. -/
def checkDelimiters (authority : List Char) : Except Problem Unit :=
  if authority.any fun c => delimiterLike.contains c.toNat then
    .error (.hiddenDelimiter (String.ofList authority))
  else .ok ()

/-- Takes characters out of percent encoding. The bytes that escapes and ASCII characters give are
read as UTF-8 up to the next character that is not ASCII. -/
def unquote : Utf8.Decoder → List Char → List Char
  | d, [] => d.finish
  | d, '%' :: a :: b :: rest =>
    match Digit.hex? a, Digit.hex? b with
    | some x, some y =>
      let (cs, d) := d.step (UInt8.ofNat (16 * x + y))
      cs ++ unquote d rest
    | _, _ =>
      let (cs, d) := d.step (UInt8.ofNat '%'.toNat)
      cs ++ unquote d (a :: b :: rest)
  | d, c :: rest =>
    if c.toNat < 0x80 then
      let (cs, d) := d.step (UInt8.ofNat c.toNat)
      cs ++ unquote d rest
    else d.finish ++ c :: unquote .clean rest

/-- The path of a document. -/
def toPath (uri : String) : Except Problem Path := do
  let (scheme, rest) := splitScheme (clean uri.toList)
  let (authority, rest) := splitAuthority rest
  checkBrackets authority
  checkDelimiters authority
  if scheme = some "file".toList then
    let path := (rest.takeWhile (· ≠ '#')).takeWhile (· ≠ '?')
    .ok (Path.ofChars (unquote .clean path))
  else .ok (Path.ofString uri)

end ProverLink.Uri
