import ProverLink.Number.Decimal
import ProverLink.Text.Scan

/-!
# Dates and times

The dates and times of TOML: how they are recognised at the head of some characters, and their two
texts, plain and as shown inside a list.
-/

namespace ProverLink

/-- A day of the Gregorian calendar. -/
structure Date where
  year : Nat
  month : Nat
  day : Nat
deriving DecidableEq

/-- A time of day, down to the microsecond. -/
structure Time where
  hour : Nat
  minute : Nat
  second : Nat
  micro : Nat := 0
deriving DecidableEq

namespace Date

/-- Whether a year has a 29th of February. -/
def isLeap (year : Nat) : Bool := year % 4 = 0 && (year % 100 ≠ 0 || year % 400 = 0)

/-- How many days a month has. -/
def daysIn (year month : Nat) : Nat :=
  if month = 2 then (if isLeap year then 29 else 28)
  else if month = 4 || month = 6 || month = 9 || month = 11 then 30
  else 31

/-- Whether a day exists; years start at one. -/
def exists? (d : Date) : Bool := 1 ≤ d.year && d.day ≤ daysIn d.year d.month

end Date

namespace Moment

/-- A number with at least `width` digits. -/
def pad (width n : Nat) : String :=
  let ds := Decimal.natChars n
  String.ofList (List.replicate (width - ds.length) '0' ++ ds)

/-- The plain text of a date. -/
def dateText (d : Date) : String := pad 4 d.year ++ "-" ++ pad 2 d.month ++ "-" ++ pad 2 d.day

/-- The plain text of a time. -/
def timeText (t : Time) : String :=
  let whole := pad 2 t.hour ++ ":" ++ pad 2 t.minute ++ ":" ++ pad 2 t.second
  if t.micro = 0 then whole else whole ++ "." ++ pad 6 t.micro

/-- The plain text of an offset in minutes. -/
def offsetText (offset : Int) : String :=
  let n := offset.natAbs
  (if offset < 0 then "-" else "+") ++ pad 2 (n / 60) ++ ":" ++ pad 2 (n % 60)

/-- The plain text of a date with a time. -/
def dateTimeText (d : Date) (t : Time) (offset : Option Int) : String :=
  dateText d ++ " " ++ timeText t ++ (offset.map offsetText).getD ""

/-- Numbers with commas between them. -/
def commas (ns : List Nat) : String := ", ".intercalate (ns.map fun (n : Nat) => Decimal.render n)

/-- The parts of a time that are shown: seconds and microseconds only if need be. -/
def timeParts (t : Time) : List Nat :=
  if t.micro ≠ 0 then [t.hour, t.minute, t.second, t.micro]
  else if t.second ≠ 0 then [t.hour, t.minute, t.second]
  else [t.hour, t.minute]

/-- An offset as shown inside a list: whole days downwards and seconds upwards. -/
def offsetDisplay (offset : Int) : String :=
  if offset = 0 then "datetime.timezone.utc"
  else if offset < 0 then
    "datetime.timezone(datetime.timedelta(days=-1, seconds=" ++
      Decimal.render (86400 + 60 * offset) ++ "))"
  else "datetime.timezone(datetime.timedelta(seconds=" ++ Decimal.render (60 * offset) ++ "))"

/-- A date as shown inside a list. -/
def dateDisplay (d : Date) : String := "datetime.date(" ++ commas [d.year, d.month, d.day] ++ ")"

/-- A time as shown inside a list. -/
def timeDisplay (t : Time) : String := "datetime.time(" ++ commas (timeParts t) ++ ")"

/-- A date with a time as shown inside a list. -/
def dateTimeDisplay (d : Date) (t : Time) (offset : Option Int) : String :=
  "datetime.datetime(" ++ commas ([d.year, d.month, d.day] ++ timeParts t) ++
    ((offset.map fun o => ", tzinfo=" ++ offsetDisplay o).getD "") ++ ")"

/-- Two digits with a value in a range. -/
def twoDigits? (least greatest : Nat) : List Char → Option (Nat × List Char)
  | a :: b :: rest => do
    let x ← Digit.ascii? a
    let y ← Digit.ascii? b
    let n := 10 * x + y
    if least ≤ n && n ≤ greatest then some (n, rest) else none
  | _ => none

/-- A character that has to stand at the head. -/
def mark? (c : Char) (cs : List Char) : Option (List Char) := Scan.after? [c] cs

/-- A date with a month from 1 to 12 and a day from 1 to 31. -/
def date? (cs : List Char) : Option (Date × List Char) := do
  let (century, cs) ← twoDigits? 0 99 cs
  let (year, cs) ← twoDigits? 0 99 cs
  let cs ← mark? '-' cs
  let (month, cs) ← twoDigits? 1 12 cs
  let cs ← mark? '-' cs
  let (day, cs) ← twoDigits? 1 31 cs
  pure ({ year := 100 * century + year, month, day }, cs)

/-- A fraction of a second in microseconds; digits past the sixth are dropped. -/
def fraction (cs : List Char) : Nat × List Char :=
  match cs with
  | '.' :: rest =>
    match (rest.takeWhile Digit.isAscii).filterMap Digit.ascii? with
    | [] => (0, cs)
    | ds => (Decimal.ofDigits ((ds ++ List.replicate 6 0).take 6), rest.dropWhile Digit.isAscii)
  | _ => (0, cs)

/-- A time of day. -/
def time? (cs : List Char) : Option (Time × List Char) := do
  let (hour, cs) ← twoDigits? 0 23 cs
  let cs ← mark? ':' cs
  let (minute, cs) ← twoDigits? 0 59 cs
  let cs ← mark? ':' cs
  let (second, cs) ← twoDigits? 0 59 cs
  let (micro, cs) := fraction cs
  pure ({ hour, minute, second, micro }, cs)

/-- An offset of hours and minutes. -/
def signedOffset? (negative : Bool) (cs : List Char) : Option (Int × List Char) := do
  let (hour, cs) ← twoDigits? 0 23 cs
  let cs ← mark? ':' cs
  let (minute, cs) ← twoDigits? 0 59 cs
  pure (Decimal.signed negative (60 * hour + minute), cs)

/-- An offset in minutes, if there is one. -/
def offset (cs : List Char) : Option Int × List Char :=
  let found := match cs with
    | 'Z' :: rest => some (0, rest)
    | 'z' :: rest => some (0, rest)
    | '+' :: rest => signedOffset? false rest
    | '-' :: rest => signedOffset? true rest
    | _ => none
  match found with
  | some (o, rest) => (some o, rest)
  | none => (none, cs)

/-- The time that follows a date behind `T`, `t` or a blank, with its offset. -/
def timeBehind? : List Char → Option ((Time × Option Int) × List Char)
  | c :: rest =>
    if c = 'T' || c = 't' || c = ' ' then
      (time? rest).map fun (t, rest) =>
        let (o, rest) := offset rest
        ((t, o), rest)
    else none
  | [] => none

end Moment

end ProverLink
