import ProverLink.Text.CodePoint

/-!
# Blanks

Two classes of code points that surround a value. `isSpace` is the Unicode property `White_Space`;
`isBlank` adds the four information separators U+001C to U+001F. Numbers are read between spaces,
while lines, settings and words end at blanks.
-/

namespace ProverLink.Blank

/-- The Unicode property `White_Space`. -/
def isSpace (n : Nat) : Bool :=
  (0x9 ≤ n && n ≤ 0xD) || n == 0x20 || n == 0x85 || n == 0xA0 || n == 0x1680 ||
    (0x2000 ≤ n && n ≤ 0x200A) || n == 0x2028 || n == 0x2029 || n == 0x202F || n == 0x205F ||
    n == 0x3000

/-- White space, or one of the information separators. -/
def isBlank (n : Nat) : Bool := isSpace n || (0x1C ≤ n && n ≤ 0x1F)

/-- Drops what satisfies `p` from the end. -/
def trimEnd {α : Type} (p : α → Bool) (xs : List α) : List α :=
  (xs.reverse.dropWhile p).reverse

/-- Drops what satisfies `p` from both ends. -/
def trim {α : Type} (p : α → Bool) (xs : List α) : List α := trimEnd p (xs.dropWhile p)

/-- A text without the white space around it. -/
def trimSpace (t : Text) : Text := trim (fun p => isSpace p.val) t

/-- Characters without the blanks around them. -/
def trimBlank (cs : List Char) : List Char := trim (fun c => isBlank c.toNat) cs

/-- Characters without the blanks behind them. -/
def trimBlankEnd (cs : List Char) : List Char := trimEnd (fun c => isBlank c.toNat) cs

/-- A string without the blanks around it. -/
def strip (s : String) : String := String.ofList (trimBlank s.toList)

/-- Whether there are blanks only. -/
def allBlank (cs : List Char) : Bool := cs.all fun c => isBlank c.toNat

/-- Puts a word in front of others, unless it is empty. -/
def consWord {α : Type} : List α → List (List α) → List (List α)
  | [], ws => ws
  | w@(_ :: _), ws => w :: ws

/-- The word that runs up to the first separator, and the words behind it. -/
def splitWords {α : Type} (p : α → Bool) : List α → List α × List (List α)
  | [] => ([], [])
  | x :: xs =>
    let (w, ws) := splitWords p xs
    if p x then ([], consWord w ws) else (x :: w, ws)

/-- The maximal runs free of separators. -/
def words {α : Type} (p : α → Bool) (xs : List α) : List (List α) :=
  let (w, ws) := splitWords p xs
  consWord w ws

/-- The words of a string, blanks between them. -/
def wordsOf (s : String) : List String :=
  (words (fun c : Char => isBlank c.toNat) s.toList).map String.ofList

end ProverLink.Blank
