import ProverLink.File.Path
import ProverLink.Number.Decimal
import ProverLink.Text.Quoted

/-!
# Files

The part of a file system that the program looks at. `FileTree.read` gives the bytes of a file, or
the error that the system reports.
-/

namespace ProverLink

/-- An error of the operating system: its number, its text and the file it is about. An error
without a number is its text alone. -/
structure OsError where
  number : Option Int
  text : String
  file : Option String := none
deriving DecidableEq

namespace OsError

/-- The wording of an error. -/
def message (e : OsError) : String :=
  match e.number, e.file with
  | none, _ => e.text
  | some n, none => "[Errno " ++ Decimal.render n ++ "] " ++ e.text
  | some n, some f =>
    "[Errno " ++ Decimal.render n ++ "] " ++ e.text ++ ": " ++ Quoted.quoteString f

/-- There is no such file. -/
def notFound (p : Path) : OsError := ⟨some 2, "No such file or directory", some p.toString⟩

/-- Something that is no directory is used as one. -/
def notDirectory (p : Path) : OsError := ⟨some 20, "Not a directory", some p.toString⟩

/-- A directory is used as a file. -/
def isDirectory (p : Path) : OsError := ⟨some 21, "Is a directory", some p.toString⟩

/-- A name in a path is too long. -/
def nameTooLong (p : Path) : OsError := ⟨some 36, "File name too long", some p.toString⟩

end OsError

/-- What stands at a place of the tree. -/
inductive Entry where
  | file (bytes : List UInt8)
  | directory
  /-- A file that the system refuses to open, with the number and the text of the error. -/
  | barred (number : Int) (text : String)
deriving DecidableEq

/-- Files and directories, each with the names that lead to it from the root. -/
structure FileTree where
  workingDirectory : List String := []
  entries : List (List String × Entry) := []

namespace FileTree

/-- What stands at a place; a directory is there as soon as something is below it. -/
def get? (t : FileTree) (place : List String) : Option Entry :=
  match t.entries.find? fun e => e.1 = place with
  | some e => some e.2
  | none =>
    if place.isEmpty || t.entries.any fun e => place.isPrefixOf e.1 then some .directory else none

/-- The longest name of a file, in bytes. -/
def maxName : Nat := 255

/-- The longest text of a path, in bytes. -/
def maxPath : Nat := 4095

/-- How walking along a path ends. -/
inductive Walk where
  | found (entry : Entry)
  | missing
  | blocked
  | tooLong
deriving DecidableEq

/-- Walks from a directory along names. Above the root is the root. -/
def walk (t : FileTree) (place : List String) : List String → Walk
  | [] => match t.get? place with
    | some e => .found e
    | none => .missing
  | n :: rest =>
    if n = ".." then walk t place.dropLast rest
    else if maxName < n.utf8ByteSize then .tooLong
    else
      let next := place ++ [n]
      match t.get? next with
      | none => .missing
      | some .directory => walk t next rest
      | some e => if rest.isEmpty then .found e else .blocked

/-- The working directory as a path. -/
def workingPath (t : FileTree) : Path := { anchor := .slash, parts := t.workingDirectory }

/-- What a path leads to. -/
def find (t : FileTree) (p : Path) : Walk :=
  if maxPath < p.toString.utf8ByteSize then .tooLong
  else t.walk (if p.anchor = .relative then t.workingDirectory else []) p.parts

/-- The bytes of a file. -/
def read (t : FileTree) (p : Path) : Except OsError (List UInt8) :=
  match t.find p with
  | .found (.file bytes) => .ok bytes
  | .found .directory => .error (.isDirectory p)
  | .found (.barred number text) => .error ⟨some number, text, some p.toString⟩
  | .missing => .error (.notFound p)
  | .blocked => .error (.notDirectory p)
  | .tooLong => .error (.nameTooLong p)

/-- The file that can be opened to write at its end: where it is, seen from the root. A missing file
is made if its directory is there. -/
def openToAppend (t : FileTree) (p : Path) : Except OsError Path :=
  let p := (t.workingPath.join p).collapse
  match t.find p with
  | .found (.file _) => .ok p
  | .found .directory => .error (.isDirectory p)
  | .found (.barred number text) => .error ⟨some number, text, some p.toString⟩
  | .blocked => .error (.notDirectory p)
  | .tooLong => .error (.nameTooLong p)
  | .missing =>
    match t.find p.parent with
    | .found .directory => .ok p
    | _ => .error (.notFound p)

end FileTree

end ProverLink
