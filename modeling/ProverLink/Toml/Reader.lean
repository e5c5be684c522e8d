import ProverLink.Toml.Document

/-!
# Reading TOML

`Toml.read` reads a document statement by statement. The functions on the way there return the
characters they leave, and name a place by the number of characters from it to the end. A literal
ends at the first closing mark, and only then are its characters looked at. Reading is broken off at
an integer with too many digits, and where arrays and inline tables are nested too deeply.
-/

namespace ProverLink.Toml

/-- What is wrong at a place. -/
inductive Problem where
  | statement
  | afterStatement
  | declaredTwice (key : Key)
  | immutable (key : Key)
  | redefined (key : Key)
  | overwrite
  | tableEnd
  | arrayOfTablesEnd
  | equals
  | keyPart
  | unclosedArray
  | unclosedTable
  | duplicateKey (key : String)
  | backslash
  | hexValue
  | notScalar
  | missing (mark : String)
  | foundCharacter (c : Char)
  | illegalCharacter (c : Char)
  | unterminated
  | date
  | value
deriving DecidableEq

/-- A key as shown in a message. -/
def keyDisplay : Key → String
  | [k] => "(" ++ Quoted.quoteString k ++ ",)"
  | ks => "(" ++ ", ".intercalate (ks.map Quoted.quoteString) ++ ")"

/-- The wording of a problem. -/
def Problem.message : Problem → String
  | .statement => "Invalid statement"
  | .afterStatement => "Expected newline or end of document after a statement"
  | .declaredTwice key => "Cannot declare " ++ keyDisplay key ++ " twice"
  | .immutable key => "Cannot mutate immutable namespace " ++ keyDisplay key
  | .redefined key => "Cannot redefine namespace " ++ keyDisplay key
  | .overwrite => "Cannot overwrite a value"
  | .tableEnd => "Expected ']' at the end of a table declaration"
  | .arrayOfTablesEnd => "Expected ']]' at the end of an array declaration"
  | .equals => "Expected '=' after a key in a key/value pair"
  | .keyPart => "Invalid initial character for a key part"
  | .unclosedArray => "Unclosed array"
  | .unclosedTable => "Unclosed inline table"
  | .duplicateKey key => "Duplicate inline table key " ++ Quoted.quoteString key
  | .backslash => "Unescaped '\\' in a string"
  | .hexValue => "Invalid hex value"
  | .notScalar => "Escaped character is not a Unicode scalar value"
  | .missing mark => "Expected " ++ Quoted.quoteString mark
  | .foundCharacter c => "Found invalid character " ++ Quoted.quoteString (String.singleton c)
  | .illegalCharacter c => "Illegal character " ++ Quoted.quoteString (String.singleton c)
  | .unterminated => "Unterminated string"
  | .date => "Invalid date or datetime"
  | .value => "Invalid value"

/-- Where a problem is: at a line and column, or at the end. -/
inductive Place where
  | at (line column : Nat)
  | documentEnd
deriving DecidableEq

/-- The wording of a place. -/
def Place.message : Place → String
  | .at line column => "line " ++ Decimal.render line ++ ", column " ++ Decimal.render column
  | .documentEnd => "end of document"

/-- Why reading stopped: a problem, with the number of characters from its place to the end, an
integer with too many digits, or values that are nested too deeply. -/
inductive Stop where
  | problem (p : Problem) (remaining : Nat)
  | tooManyDigits (count : Nat)
  | tooDeep
deriving DecidableEq

/-- Why a text is not read as TOML. -/
inductive ReadError where
  | malformed (p : Problem) (place : Place)
  | tooManyDigits (count : Nat)
  | tooDeep
deriving DecidableEq

/-- A problem at the head of some characters. -/
def stop {α : Type} (p : Problem) (cs : List Char) : Except Stop α := .error (.problem p cs.length)

/-! ### Characters -/

/-- White space inside a line. -/
def isSpace (c : Char) : Bool := c = ' ' || c = '\t'

/-- White space, line breaks included. -/
def isSpaceOrNewline (c : Char) : Bool := isSpace c || c = '\n'

/-- A control character, the tab apart. -/
def isControl (c : Char) : Bool := (c.toNat < 0x20 && c ≠ '\t') || c.toNat = 0x7F

/-- A control character, tab and line break apart. -/
def isControlInLines (c : Char) : Bool := isControl c && c ≠ '\n'

/-- A character of a key without quotes. -/
def isBare (c : Char) : Bool :=
  ('a' ≤ c && c ≤ 'z') || ('A' ≤ c && c ≤ 'Z') || Digit.isAscii c || c = '-' || c = '_'

/-- Drops white space inside a line. -/
def skip (cs : List Char) : List Char := cs.dropWhile isSpace

/-- The characters in front of the first occurrence of a mark, and those behind it. -/
def splitAt? (mark : List Char) : List Char → Option (List Char × List Char)
  | [] => none
  | c :: rest =>
    match Scan.after? mark (c :: rest) with
    | some r => some ([], r)
    | none => (splitAt? mark rest).map fun (before, r) => (c :: before, r)

/-- Stops at the first character of `cs` that is illegal; `behind` characters follow `cs`. -/
def refuse (illegal : Char → Bool) (behind : Nat) : List Char → Except Stop Unit
  | [] => .ok ()
  | c :: rest =>
    if illegal c then .error (.problem (.foundCharacter c) (rest.length + 1 + behind))
    else refuse illegal behind rest

/-- What a literal up to a mark holds, and what follows the mark. -/
def literal (mark : String) (illegal : Char → Bool) (cs : List Char) :
    Except Stop (List Char × List Char) :=
  match splitAt? mark.toList cs with
  | none => .error (.problem (.missing mark) 0)
  | some (body, rest) => do
    refuse illegal (cs.length - body.length) body
    .ok (body, rest)

/-- Drops a comment up to the end of its line. -/
def comment (cs : List Char) : Except Stop (List Char) :=
  match cs with
  | '#' :: rest => do
    let body := rest.takeWhile (· ≠ '\n')
    let behind := rest.dropWhile (· ≠ '\n')
    refuse isControl behind.length body
    .ok behind
  | _ => .ok cs

/-- Drops white space, line breaks and comments; each round that goes on drops a character. -/
def skipLines : Nat → List Char → Except Stop (List Char)
  | 0, cs => .ok cs
  | fuel + 1, cs => do
    let rest ← comment (cs.dropWhile isSpaceOrNewline)
    if rest.length < cs.length then skipLines fuel rest else .ok rest

/-- Drops white space, line breaks and comments. -/
def skipAll (cs : List Char) : Except Stop (List Char) := skipLines cs.length cs

/-! ### Strings -/

/-- The character of a one-letter escape. -/
def escaped? : Char → Option Char
  | 'b' => some '\x08'
  | 't' => some '\t'
  | 'n' => some '\n'
  | 'f' => some '\x0c'
  | 'r' => some '\r'
  | '"' => some '"'
  | '\\' => some '\\'
  | _ => none

/-- Where the reader of a string in double quotes stands: in the text, behind a backslash that white
space follows, or in the white space that is dropped behind such a line end. -/
inductive Mode where
  | plain
  | lineEnd
  | dropping
deriving DecidableEq

/-- The character that hexadecimal digits name; `rest` follows the digits. -/
def hexChar (digits rest : List Char) : Except Stop Char :=
  match digits.foldlM (fun n c => (Digit.hex? c).map (16 * n + ·)) 0 with
  | none => .error (.problem .hexValue (digits.length + rest.length))
  | some n => if n.isValidChar then .ok (Char.ofNat n) else stop .notScalar rest

/-- The characters of a string in double quotes up to its end. With `lines` it ends at three quotes
and may go over several lines. -/
def basic (lines : Bool) : Mode → List Char → Except Stop (List Char × List Char)
  | _, [] => .error (.problem .unterminated 0)
  | mode, c :: rest =>
    if mode = .lineEnd then
      if c = '\n' then basic lines .dropping rest
      else if isSpace c then basic lines .lineEnd rest
      else stop .backslash (c :: rest)
    else if mode = .dropping && isSpaceOrNewline c then basic lines .dropping rest
    else if c = '"' then
      if lines then
        match rest with
        | '"' :: '"' :: r => .ok ([], r)
        | _ => do
          let (cs, r) ← basic lines .plain rest
          .ok ('"' :: cs, r)
      else .ok ([], rest)
    else if c = '\\' then
      match rest with
      | [] => .error (.problem .backslash 0)
      | 'u' :: d₁ :: d₂ :: d₃ :: d₄ :: r => do
        let x ← hexChar [d₁, d₂, d₃, d₄] r
        let (cs, r) ← basic lines .plain r
        .ok (x :: cs, r)
      | 'u' :: r => stop .hexValue r
      | 'U' :: d₁ :: d₂ :: d₃ :: d₄ :: d₅ :: d₆ :: d₇ :: d₈ :: r => do
        let x ← hexChar [d₁, d₂, d₃, d₄, d₅, d₆, d₇, d₈] r
        let (cs, r) ← basic lines .plain r
        .ok (x :: cs, r)
      | 'U' :: r => stop .hexValue r
      | e :: r =>
        if lines && e = '\n' then basic lines .dropping r
        else if lines && isSpace e then basic lines .lineEnd r
        else
          match escaped? e with
          | none => stop .backslash r
          | some x => do
            let (cs, r) ← basic lines .plain r
            .ok (x :: cs, r)
    else if (if lines then isControlInLines c else isControl c) then
      stop (.illegalCharacter c) (c :: rest)
    else do
      let (cs, r) ← basic lines .plain rest
      .ok (c :: cs, r)

/-- At most two quotes behind the three that end a string still belong to it. -/
def extraQuotes (quote : Char) : List Char → List Char × List Char
  | [] => ([], [])
  | [a] => if a = quote then ([a], []) else ([], [a])
  | a :: b :: rest =>
    if a = quote then (if b = quote then ([a, b], rest) else ([a], b :: rest))
    else ([], a :: b :: rest)

/-- Drops the line break that stands first in a string over several lines. -/
def dropNewline : List Char → List Char
  | '\n' :: rest => rest
  | cs => cs

/-- A string in double quotes, the first of them being read already. -/
def doubleQuoted : List Char → Except Stop (List Char × List Char)
  | '"' :: '"' :: rest => do
    let (cs, r) ← basic true .plain (dropNewline rest)
    let (more, r) := extraQuotes '"' r
    .ok (cs ++ more, r)
  | rest => basic false .plain rest

/-- A string in single quotes, the first of them being read already. -/
def singleQuoted : List Char → Except Stop (List Char × List Char)
  | '\'' :: '\'' :: rest => do
    let (cs, r) ← literal "'''" isControlInLines (dropNewline rest)
    let (more, r) := extraQuotes '\'' r
    .ok (cs ++ more, r)
  | rest => literal "'" isControl rest

/-! ### Keys -/

/-- One part of a dotted key. -/
def keyPart (cs : List Char) : Except Stop (String × List Char) :=
  match cs with
  | '\'' :: rest => do
    let (k, r) ← literal "'" isControl rest
    .ok (String.ofList k, r)
  | '"' :: rest => do
    let (k, r) ← basic false .plain rest
    .ok (String.ofList k, r)
  | _ =>
    match cs.takeWhile isBare with
    | [] => stop .keyPart cs
    | k => .ok (String.ofList k, cs.dropWhile isBare)

/-- The parts of a dotted key; each costs one unit of fuel. -/
def keyParts : Nat → List Char → Except Stop (Key × List Char)
  | 0, cs => stop .keyPart cs
  | fuel + 1, cs => do
    let (k, r) ← keyPart cs
    match skip r with
    | '.' :: r => do
      let (ks, r) ← keyParts fuel (skip r)
      .ok (k :: ks, r)
    | r => .ok ([k], r)

/-- A dotted key. -/
def dottedKey (cs : List Char) : Except Stop (Key × List Char) := keyParts (cs.length + 1) cs

/-! ### Values without parts -/

/-- A run of digits in which a single low line may stand between two of them. -/
def digitRun (value? : Char → Option Nat) : List Char → List Nat × List Char
  | c :: '_' :: d :: r =>
    match value? c with
    | none => ([], c :: '_' :: d :: r)
    | some n =>
      if (value? d).isSome then
        let (ns, rest) := digitRun value? (d :: r)
        (n :: ns, rest)
      else ([n], '_' :: d :: r)
  | c :: r =>
    match value? c with
    | none => ([], c :: r)
    | some n =>
      let (ns, rest) := digitRun value? r
      (n :: ns, rest)
  | [] => ([], [])

/-- A digit below a base of at most ten. -/
def digitBelow (base : Nat) (c : Char) : Option Nat := (Digit.ascii? c).filter (· < base)

/-- An integer in a base that its digits are read in. -/
def inBase? (base : Nat) (value? : Char → Option Nat) (cs : List Char) :
    Option (Int × List Char) :=
  match digitRun value? cs with
  | ([], _) => none
  | (ns, r) => some ((ns.foldl (fun n d => base * n + d) 0 : Nat), r)

/-- An integer in base sixteen, eight or two, behind its leading zero. -/
def based? (cs : List Char) : Option (Int × List Char) :=
  match cs with
  | 'x' :: rest => inBase? 16 Digit.hex? rest
  | 'o' :: rest => inBase? 8 (digitBelow 8) rest
  | 'b' :: rest => inBase? 2 (digitBelow 2) rest
  | _ => none

/-- The whole digits of a decimal number. -/
def whole? : List Char → Option (List Nat × List Char)
  | '0' :: rest => some ([0], rest)
  | cs =>
    match digitRun Digit.ascii? cs with
    | ([], _) => none
    | (ns, rest) => some (ns, rest)

/-- The digits of a fraction, if there is one. -/
def fraction (cs : List Char) : List Nat × List Char :=
  match cs with
  | '.' :: rest =>
    match digitRun Digit.ascii? rest with
    | ([], _) => ([], cs)
    | (ns, r) => (ns, r)
  | _ => ([], cs)

/-- The exponent, if there is one. -/
def exponent (cs : List Char) : Option Int × List Char :=
  let digits (negative : Bool) (rest : List Char) : Option Int × List Char :=
    match digitRun Digit.ascii? rest with
    | ([], _) => (none, cs)
    | (ns, r) => (some (Decimal.signed negative (Decimal.ofDigits ns)), r)
  match cs with
  | c :: rest =>
    if c = 'e' || c = 'E' then
      match rest with
      | '-' :: r => digits true r
      | '+' :: r => digits false r
      | r => digits false r
    else (none, cs)
  | [] => (none, cs)

/-- A decimal number behind its sign; none if there are no digits. -/
def decimal? (negative : Bool) (cs : List Char) : Option (Except Stop (Toml × List Char)) := do
  let (ns, rest) ← whole? cs
  let (fs, rest) := fraction rest
  let (e?, rest) := exponent rest
  if fs.isEmpty && e?.isNone then
    if Decimal.maxDigits < ns.length then some (.error (.tooManyDigits ns.length))
    else some (.ok (.int (Decimal.signed negative (Decimal.ofDigits ns)), rest))
  else
    let n : Binary64.Numeral := { whole := ns, fraction := fs, exponent := e?.getD 0 }
    some (.ok (.float (n.value negative), rest))

/-- A number; none if there is none. -/
def number? (cs : List Char) : Option (Except Stop (Toml × List Char)) :=
  match cs with
  | '-' :: rest => decimal? true rest
  | '+' :: rest => decimal? false rest
  | '0' :: rest =>
    match based? rest with
    | some (i, r) => some (.ok (.int i, r))
    | none => decimal? false cs
  | _ => decimal? false cs

/-- The numbers that are written as words. -/
def numberWords : List (String × Binary64) :=
  [("inf", .infinity false), ("nan", .nan), ("-inf", .infinity true), ("+inf", .infinity false),
    ("-nan", .nan), ("+nan", .nan)]

/-- The value of a table of words that stands at the head. -/
def word? {α : Type} (table : List (String × α)) (cs : List Char) : Option (α × List Char) :=
  table.findSome? fun w => (Scan.after? w.1.toList cs).map fun rest => (w.2, rest)

/-- A date, possibly with a time. -/
def dated (d : Date) (cs rest : List Char) : Except Stop (Toml × List Char) :=
  if d.exists? then
    match Moment.timeBehind? rest with
    | some ((t, o), r) => .ok (.dateTime d t o, r)
    | none => .ok (.date d, rest)
  else stop .date cs

/-- A truth value, a date or time, or a number. -/
def atom (cs : List Char) : Except Stop (Toml × List Char) :=
  match word? [("true", true), ("false", false)] cs with
  | some (b, rest) => .ok (.bool b, rest)
  | none =>
    match Moment.date? cs with
    | some (d, rest) => dated d cs rest
    | none =>
      match Moment.time? cs with
      | some (t, rest) => .ok (.time t, rest)
      | none =>
        match number? cs with
        | some r => r
        | none =>
          match word? numberWords cs with
          | some (x, rest) => .ok (.float x, rest)
          | none => stop .value cs

/-! ### Values -/

/-- Puts an entry into an inline table; `cs` is what follows the entry. -/
def inlineEntry (t : Table) (marks : Marks) (key : Key) (v : Toml) (cs : List Char) :
    Except Stop Table :=
  let stem := key.getLast?.getD ""
  if marks.has key .frozen then stop (.immutable key) cs
  else if (within false some key.dropLast t).isNone then stop .overwrite cs
  else
    match within false (addEntry stem v) key.dropLast t with
    | none => stop (.duplicateKey stem) cs
    | some t => .ok t

/-- Marks a key whose value has parts, so that nothing changes below it. -/
def freeze (marks : Marks) (key : Key) (v : Toml) : Marks :=
  if v.isCompound then { key, kind := .frozen, deep := true } :: marks else marks

/-- The room that is left inside an array or an inline table, where there is enough. -/
def inside (cost room : Nat) : Except Stop Nat :=
  if room < cost then .error .tooDeep else .ok (room - cost)

mutual

/-- A value, with room for so many calls. Every call costs one unit of fuel; `2 * cs.length + 1`
units are enough. -/
def value : Nat → Nat → List Char → Except Stop (Toml × List Char)
  | 0, _, cs => stop .value cs
  | fuel + 1, room, cs =>
    match cs with
    | '"' :: rest => do
      let (s, r) ← doubleQuoted rest
      .ok (.str (String.ofList s), r)
    | '\'' :: rest => do
      let (s, r) ← singleQuoted rest
      .ok (.str (String.ofList s), r)
    | '[' :: rest => do
      let room ← inside 2 room
      let r ← skipAll rest
      match r with
      | ']' :: r => .ok (.arr [], r)
      | _ => do
        let (vs, r) ← items fuel room r
        .ok (.arr vs, r)
    | '\x7b' :: rest => do
      let room ← inside 3 room
      match skip rest with
      | '\x7d' :: r => .ok (.table [], r)
      | r => do
        let (t, r) ← entries fuel room [] [] r
        .ok (.table t, r)
    | _ => atom cs

/-- The items of an array up to its closing bracket; there is at least one. -/
def items : Nat → Nat → List Char → Except Stop (List Toml × List Char)
  | 0, _, cs => stop .value cs
  | fuel + 1, room, cs => do
    let (v, r) ← value fuel room cs
    let r ← skipAll r
    match r with
    | ']' :: r => .ok ([v], r)
    | ',' :: r => do
      let r ← skipAll r
      match r with
      | ']' :: r => .ok ([v], r)
      | _ => do
        let (vs, r) ← items fuel room r
        .ok (v :: vs, r)
    | _ => stop .unclosedArray r

/-- The entries of an inline table up to its closing brace; there is at least one. -/
def entries : Nat → Nat → Table → Marks → List Char → Except Stop (Table × List Char)
  | 0, _, _, _, cs => stop .value cs
  | fuel + 1, room, t, marks, cs => do
    let (key, r) ← dottedKey cs
    match r with
    | '=' :: r => do
      let (v, r) ← value fuel room (skip r)
      let t ← inlineEntry t marks key v r
      match skip r with
      | '\x7d' :: r => .ok (t, r)
      | ',' :: r => entries fuel room t (freeze marks key v) (skip r)
      | r => stop .unclosedTable r
    | _ => stop .equals r

end

/-! ### Statements -/

/-- What the statements so far have built. -/
structure Draft where
  table : Table := []
  marks : Marks := []
  /-- Keys that count as declared from the next header on. -/
  pending : List Key := []
  header : Key := []

namespace Draft

/-- Turns the pending keys into marks. -/
def settle (d : Draft) : Draft :=
  { d with
    marks := d.pending.map (fun key => { key, kind := .declared, deep := false }) ++ d.marks
    pending := [] }

/-- The keys of the tables that a dotted key goes through below the header. -/
def through (d : Draft) (key : Key) : List Key :=
  (List.range (key.length - 1)).map fun i => d.header ++ key.take (i + 1)

/-- Puts an entry below the header; `cs` is what follows it. -/
def addEntry (d : Draft) (key : Key) (v : Toml) (cs : List Char) : Except Stop Draft :=
  let through := d.through key
  let parent := d.header ++ key.dropLast
  match through.find? fun k => d.marks.has k .declared with
  | some k => stop (.redefined k) cs
  | none =>
    if d.marks.has parent .frozen then stop (.immutable parent) cs
    else
      match within true (Toml.addEntry (key.getLast?.getD "") v) parent d.table with
      | none => stop .overwrite cs
      | some table =>
        .ok { d with
          table
          marks := freeze d.marks (d.header ++ key) v
          pending := through ++ d.pending }

/-- Declares a table; `cs` is what follows its key. -/
def openTable (d : Draft) (key : Key) (cs : List Char) : Except Stop Draft :=
  if d.marks.has key .declared || d.marks.has key .frozen then stop (.declaredTwice key) cs
  else
    match within true some key d.table with
    | none => stop .overwrite cs
    | some table =>
      .ok { d with
        table
        marks := { key, kind := .declared, deep := false } :: d.marks
        header := key }

/-- Adds a table to an array of tables; `cs` is what follows its key. -/
def openArrayTable (d : Draft) (key : Key) (cs : List Char) : Except Stop Draft :=
  if d.marks.has key .frozen then stop (.immutable key) cs
  else
    match within true (addTable (key.getLast?.getD "")) key.dropLast d.table with
    | none => stop .overwrite cs
    | some table =>
      .ok { d with
        table
        marks := { key, kind := .declared, deep := false } :: d.marks.clear key
        header := key }

end Draft

variable [Limits]

/-- A key, an equals sign and a value. -/
def keyValue (d : Draft) (cs : List Char) : Except Stop (Draft × List Char) := do
  let (key, r) ← dottedKey cs
  match r with
  | '=' :: r => do
    let r := skip r
    let (v, r) ← value (2 * r.length + 1) Limits.toml r
    let d ← d.addEntry key v r
    .ok (d, r)
  | _ => stop .equals r

/-- A header of a table, its first bracket being read already. -/
def header (d : Draft) (cs : List Char) : Except Stop (Draft × List Char) := do
  let d := d.settle
  match cs with
  | '[' :: rest => do
    let (key, r) ← dottedKey (skip rest)
    let d ← d.openArrayTable key r
    match r with
    | ']' :: ']' :: r => .ok (d, r)
    | _ => stop .arrayOfTablesEnd r
  | _ => do
    let (key, r) ← dottedKey (skip cs)
    let d ← d.openTable key r
    match r with
    | ']' :: r => .ok (d, r)
    | _ => stop .tableEnd r

/-- The statement at the head of some characters, a comment being none. -/
def statement (d : Draft) (cs : List Char) : Except Stop (Draft × List Char) :=
  match cs with
  | '[' :: rest => header d rest
  | c :: _ =>
    if isBare c || c = '"' || c = '\'' then keyValue d cs
    else if c = '#' then .ok (d, cs)
    else stop .statement cs
  | [] => .ok (d, cs)

/-- The statements up to the end; each line costs one unit of fuel. -/
def statements : Nat → Draft → List Char → Except Stop Table
  | 0, d, _ => .ok d.table
  | fuel + 1, d, cs =>
    match skip cs with
    | [] => .ok d.table
    | '\n' :: rest => statements fuel d rest
    | cs => do
      let (d, r) ← statement d cs
      let r ← comment (skip r)
      match r with
      | [] => .ok d.table
      | '\n' :: rest => statements fuel d rest
      | _ => stop .afterStatement r

/-- A stop with its place in the text. -/
def Stop.locate (cs : List Char) : Stop → ReadError
  | .tooManyDigits count => .tooManyDigits count
  | .tooDeep => .tooDeep
  | .problem p 0 => .malformed p .documentEnd
  | .problem p remaining =>
    let (line, column) := Scan.lineAndColumn (cs.take (cs.length - remaining))
    .malformed p (.at line column)

/-- Reads a document. -/
def read (cs : List Char) : Except ReadError Table :=
  (statements (cs.length + 1) {} cs).mapError (Stop.locate cs)

end ProverLink.Toml
