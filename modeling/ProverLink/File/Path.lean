/-!
# Paths

A path is a list of names that starts somewhere. Empty names and the name `.` are dropped when a
path is read, and `..` is kept.
-/

namespace ProverLink

/-- Where a path starts: at the working directory, at the root, or at the root written with two
slashes. -/
inductive Anchor where
  | relative
  | slash
  | doubleSlash
deriving DecidableEq

/-- A path in normal form. -/
structure Path where
  anchor : Anchor := .relative
  parts : List String := []
deriving DecidableEq

namespace Path

/-- The pieces between the slashes. -/
def pieces : List Char → List (List Char)
  | [] => [[]]
  | c :: rest =>
    if c = '/' then [] :: pieces rest
    else
      match pieces rest with
      | [] => [[c]]
      | p :: ps => (c :: p) :: ps

/-- Whether a piece counts. -/
def isName (piece : List Char) : Bool := piece ≠ [] && piece ≠ ['.']

/-- The anchor that characters start with. Three slashes and more count as one. -/
def anchorOf : List Char → Anchor
  | '/' :: '/' :: '/' :: _ => .slash
  | '/' :: '/' :: _ => .doubleSlash
  | '/' :: _ => .slash
  | _ => .relative

/-- Reads a path. -/
def ofChars (cs : List Char) : Path :=
  { anchor := anchorOf cs, parts := ((pieces cs).filter isName).map String.ofList }

/-- Reads a path from a string. -/
def ofString (s : String) : Path := ofChars s.toList

/-- The text of a path; the working directory is a point. -/
def toString (p : Path) : String :=
  let rest := "/".intercalate p.parts
  match p.anchor with
  | .relative => if p.parts.isEmpty then "." else rest
  | .slash => "/" ++ rest
  | .doubleSlash => "//" ++ rest

/-- The path without its last name. -/
def parent (p : Path) : Path := { p with parts := p.parts.dropLast }

/-- The last name. -/
def name (p : Path) : String := p.parts.getLast?.getD ""

/-- A path as seen from another one. -/
def join (base p : Path) : Path :=
  match p.anchor with
  | .relative => { base with parts := base.parts ++ p.parts }
  | _ => p

/-- Resolves `..` by the names alone; above the root is the root. -/
def collapse (p : Path) : Path :=
  { p with parts := p.parts.foldl (fun acc n => if n = ".." then acc.dropLast else acc ++ [n]) [] }

end Path

end ProverLink
