import ProverLink.Text.Digit

/-!
# Addresses between brackets

Which texts are IPv4 and IPv6 addresses, and addresses of a future version.
-/

namespace ProverLink.Host

/-- The pieces between separators. -/
def splitOn (separator : Char) : List Char → List (List Char)
  | [] => [[]]
  | c :: rest =>
    if c = separator then [] :: splitOn separator rest
    else
      match splitOn separator rest with
      | [] => [[c]]
      | p :: ps => (c :: p) :: ps

/-- A number up to 255 of one to three digits, without leading zeros. -/
def isOctet (cs : List Char) : Bool :=
  match cs.mapM Digit.ascii? with
  | none => false
  | some [] => false
  | some [_] => true
  | some ds => ds.length ≤ 3 && ds.head? ≠ some 0 && ds.foldl (fun n d => 10 * n + d) 0 ≤ 255

/-- An IPv4 address: four octets. -/
def isIPv4 (cs : List Char) : Bool :=
  let octets := splitOn '.' cs
  octets.length = 4 && octets.all isOctet

/-- One to four hexadecimal digits. -/
def isHextet (cs : List Char) : Bool := cs ≠ [] && cs.length ≤ 4 && cs.all Digit.isHex

/-- The groups of an IPv6 address; one in the form of IPv4 at the end counts as two. -/
def groups? (cs : List Char) : Option (List (List Char)) :=
  let parts := splitOn ':' cs
  match parts.getLast? with
  | none => none
  | some last =>
    if last.contains '.' then
      if isIPv4 last then some (parts.dropLast ++ [['0'], ['0']]) else none
    else some parts

/-- The places, the ends apart, at which a group is empty. -/
def gaps (groups : List (List Char)) : List Nat :=
  (List.range groups.length).filter fun i =>
    0 < i && i + 1 < groups.length && groups[i]? = some []

/-- Whether the groups in front of a gap or behind it are hextets. At an end there is nothing but an
empty group, or no empty group. -/
def sideOk (atEnd : Option (List Char)) (side : List (List Char)) : Bool :=
  if atEnd = some [] then side.length = 1 else side.all isHextet

/-- How many groups a side counts for. -/
def sideCount (atEnd : Option (List Char)) (side : List (List Char)) : Nat :=
  if atEnd = some [] then side.length - 1 else side.length

/-- An IPv6 address without a zone: eight groups, or fewer with one gap. -/
def isPlainIPv6 (cs : List Char) : Bool :=
  if (splitOn ':' cs).length < 3 then false
  else
    match groups? cs with
    | none => false
    | some gs =>
      if 9 < gs.length then false
      else
        match gaps gs with
        | [] => gs.length = 8 && gs.all isHextet
        | [i] =>
          let front := gs.take i
          let back := gs.drop (i + 1)
          sideOk gs.head? front && sideOk gs.getLast? back &&
            sideCount gs.head? front + sideCount gs.getLast? back < 8
        | _ => false

/-- An IPv6 address, possibly with a zone behind a percent sign. -/
def isIPv6 (cs : List Char) : Bool :=
  match cs.dropWhile (· ≠ '%') with
  | [] => isPlainIPv6 cs
  | _ :: zone =>
    zone ≠ [] && !zone.contains '%' && isPlainIPv6 (cs.takeWhile (· ≠ '%'))

/-- An address of a future version, behind its `v`: hexadecimal digits, a point, and something. -/
def isFuture (cs : List Char) : Bool :=
  let version := cs.takeWhile Digit.isHex
  match cs.drop version.length with
  | '.' :: _ :: _ => version ≠ []
  | _ => false

end ProverLink.Host
