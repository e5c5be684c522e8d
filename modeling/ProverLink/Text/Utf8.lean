/-!
# UTF-8

Three readers of bytes. `decode` reads all of them and puts the replacement character for each
longest part that starts a character and does not go on. `Decoder` does the same piece by piece and
keeps what is incomplete for the next piece. `decodeStrict` refuses, and says where and why.
-/

namespace ProverLink.Utf8

/-- What stands for bytes that are no character. -/
def replacement : Char := '�'

/-- The beginning of a character: how many bytes are missing, the range of the next one, and the
bits so far. -/
structure Start where
  missing : Nat
  least : Nat
  greatest : Nat
  bits : Nat
deriving DecidableEq

/-- What a byte is that stands where a character begins. -/
inductive Lead where
  | char (c : Char)
  | start (s : Start)
  | invalid

/-- Looks at a byte where a character begins. The narrower ranges rule out overlong forms,
surrogates and numbers past the last code point. -/
def lead (byte : UInt8) : Lead :=
  let b := byte.toNat
  if b < 0x80 then .char (Char.ofNat b)
  else if b < 0xC2 then .invalid
  else if b < 0xE0 then .start ⟨1, 0x80, 0xBF, b - 0xC0⟩
  else if b = 0xE0 then .start ⟨2, 0xA0, 0xBF, 0⟩
  else if b = 0xED then .start ⟨2, 0x80, 0x9F, 0xD⟩
  else if b < 0xF0 then .start ⟨2, 0x80, 0xBF, b - 0xE0⟩
  else if b = 0xF0 then .start ⟨3, 0x90, 0xBF, 0⟩
  else if b < 0xF4 then .start ⟨3, 0x80, 0xBF, b - 0xF0⟩
  else if b = 0xF4 then .start ⟨3, 0x80, 0x8F, 4⟩
  else .invalid

namespace Start

/-- Whether a byte goes on with the character. -/
def accepts (s : Start) (byte : UInt8) : Bool :=
  s.least ≤ byte.toNat && byte.toNat ≤ s.greatest

/-- Whether a byte that does not go on with the character would make it a surrogate. -/
def makesSurrogate (s : Start) (byte : UInt8) : Bool :=
  s.greatest = 0x9F && 0xA0 ≤ byte.toNat && byte.toNat ≤ 0xBF

/-- The bits with those of one more byte. -/
def pushBits (s : Start) (byte : UInt8) : Nat := s.bits * 64 + (byte.toNat - 0x80)

/-- The beginning with one more byte. -/
def push (s : Start) (byte : UInt8) : Start :=
  { missing := s.missing - 1, least := 0x80, greatest := 0xBF, bits := s.pushBits byte }

end Start

/-! ### All at once -/

/-- The rest of a character, if the bytes go on with it to its end, and the bytes behind it. -/
def complete (s : Start) : List UInt8 → Option Char × List UInt8
  | [] => (none, [])
  | b :: rest =>
    if s.accepts b then
      if s.missing ≤ 1 then (some (Char.ofNat (s.pushBits b)), rest) else complete (s.push b) rest
    else (none, b :: rest)

theorem length_complete_le (s : Start) (bytes : List UInt8) :
    (complete s bytes).2.length ≤ bytes.length := by
  induction bytes generalizing s with
  | nil => simp [complete]
  | cons b rest ih =>
    rw [complete]
    split
    · split
      · simp
      · exact Nat.le_succ_of_le (ih _)
    · simp

/-- The characters of some bytes, with replacements. -/
def decode : List UInt8 → List Char
  | [] => []
  | b :: rest =>
    match lead b with
    | .char c => c :: decode rest
    | .invalid => replacement :: decode rest
    | .start s => (complete s rest).1.getD replacement :: decode (complete s rest).2
termination_by bytes => bytes.length
decreasing_by
  · simp
  · simp
  · exact Nat.lt_succ_of_le (length_complete_le s rest)

/-! ### Piece by piece -/

/-- Between two pieces: nothing, the beginning of a character, or the first two bytes of what would
be a surrogate, which are held back as well. -/
inductive Decoder where
  | clean
  | within (s : Start)
  | surrogate
deriving DecidableEq

namespace Decoder

/-- A byte where a character begins. -/
def first (byte : UInt8) : List Char × Decoder :=
  match lead byte with
  | .char c => ([c], .clean)
  | .invalid => ([replacement], .clean)
  | .start s => ([], .within s)

/-- A byte behind some bytes that are no character. -/
def restart (replacements : List Char) (byte : UInt8) : List Char × Decoder :=
  let (cs, d) := first byte
  (replacements ++ cs, d)

/-- One byte. -/
def step : Decoder → UInt8 → List Char × Decoder
  | .clean, b => first b
  | .within s, b =>
    if s.accepts b then
      if s.missing ≤ 1 then ([Char.ofNat (s.pushBits b)], .clean) else ([], .within (s.push b))
    else if s.makesSurrogate b then ([], .surrogate)
    else restart [replacement] b
  | .surrogate, b => restart [replacement, replacement] b

/-- One piece. -/
def feed : Decoder → List UInt8 → List Char × Decoder
  | d, [] => ([], d)
  | d, b :: rest =>
    let (cs, d) := d.step b
    let (more, d) := feed d rest
    (cs ++ more, d)

/-- Two pieces one after the other are as good as both together. -/
theorem feed_append (d : Decoder) (xs ys : List UInt8) :
    d.feed (xs ++ ys)
      = ((d.feed xs).1 ++ ((d.feed xs).2.feed ys).1, ((d.feed xs).2.feed ys).2) := by
  induction xs generalizing d with
  | nil => simp [feed]
  | cons b rest ih => simp [feed, ih]

/-- What an incomplete character gives at the end. -/
def finish : Decoder → List Char
  | .clean => []
  | .within _ => [replacement]
  | .surrogate => [replacement, replacement]

end Decoder

/-! ### Strictly -/

/-- Why bytes are refused. -/
inductive Reason where
  | invalidStart
  | invalidContinuation
  | unexpectedEnd
deriving DecidableEq

/-- The wording of a reason. -/
def Reason.message : Reason → String
  | .invalidStart => "invalid start byte"
  | .invalidContinuation => "invalid continuation byte"
  | .unexpectedEnd => "unexpected end of data"

/-- Bytes that are refused: the place of the first, how many they are, and the first itself. -/
structure Refusal where
  position : Nat
  count : Nat
  byte : UInt8
  reason : Reason
deriving DecidableEq

/-- The characters of some bytes that start at a position. -/
def decodeFrom (position : Nat) : List UInt8 → Except Refusal (List Char)
  | [] => .ok []
  | b :: rest =>
    match lead b with
    | .char c => (decodeFrom (position + 1) rest).map (c :: ·)
    | .invalid => .error { position, count := 1, byte := b, reason := .invalidStart }
    | .start s =>
      let behind := (complete s rest).2
      let count := 1 + (rest.length - behind.length)
      match (complete s rest).1 with
      | some c => (decodeFrom (position + count) behind).map (c :: ·)
      | none =>
        let reason := if behind.isEmpty then Reason.unexpectedEnd else .invalidContinuation
        .error { position, count, byte := b, reason }
termination_by bytes => bytes.length
decreasing_by
  · simp
  · exact Nat.lt_succ_of_le (length_complete_le s rest)

/-- The characters of some bytes, if all of them are UTF-8. -/
def decodeStrict (bytes : List UInt8) : Except Refusal (List Char) := decodeFrom 0 bytes

/-- The bytes of some characters. -/
def encode (cs : List Char) : List UInt8 := cs.flatMap String.utf8EncodeChar

end ProverLink.Utf8
