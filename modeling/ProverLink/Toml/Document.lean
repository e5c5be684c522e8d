import ProverLink.Toml.Value

/-!
# Building a document

Statements put values into a table under dotted keys. Two kinds of marks on keys say what later
statements may no longer do: a key that is declared is not declared again, and below a key that is
frozen nothing changes. `within` changes the table that a key leads to.
-/

namespace ProverLink.Toml

/-- A dotted key. -/
abbrev Key := List String

/-- What a mark forbids. -/
inductive MarkKind where
  | frozen
  | declared
deriving DecidableEq

/-- A mark on a key; a deep one holds for all longer keys too. -/
structure Mark where
  key : Key
  kind : MarkKind
  deep : Bool
deriving DecidableEq

/-- The marks set so far. -/
abbrev Marks := List Mark

namespace Marks

/-- Whether a key carries a mark, itself or through a deep mark on a shorter one. -/
def has (marks : Marks) (key : Key) (kind : MarkKind) : Bool :=
  marks.any fun m => m.kind = kind && (m.key = key || (m.deep && m.key.isPrefixOf key))

/-- Removes the marks on a key and on all longer ones. -/
def clear (marks : Marks) (key : Key) : Marks := marks.filter fun m => !key.isPrefixOf m.key

end Marks

/-- Changes the table that a key leads to, making the tables that are missing on the way; none if
something else than a table is in the way or if the change fails. With `lists`, a list stands for
its last item. -/
def within (lists : Bool) (change : Table → Option Table) : Key → Table → Option Table
  | [], t => change t
  | k :: rest, t =>
    match t.get? k with
    | none => (within lists change rest []).map fun sub => t.put k (.table sub)
    | some (.table sub) => (within lists change rest sub).map fun sub => t.put k (.table sub)
    | some (.arr items) =>
      match lists, items.getLast? with
      | true, some (.table sub) =>
        (within lists change rest sub).map fun sub =>
          t.put k (.arr (items.dropLast ++ [.table sub]))
      | _, _ => none
    | some _ => none

/-- Adds an entry under a key that is not there yet. -/
def addEntry (key : String) (v : Toml) (t : Table) : Option Table :=
  if (t.get? key).isSome then none else some (t.put key v)

/-- Adds an empty table to the list under a key. -/
def addTable (key : String) (t : Table) : Option Table :=
  match t.get? key with
  | none => some (t.put key (.arr [.table []]))
  | some (.arr items) => some (t.put key (.arr (items ++ [.table []])))
  | some _ => none

/-- Whether a value has parts. -/
def isCompound : Toml → Bool
  | .arr _ => true
  | .table _ => true
  | _ => false

end ProverLink.Toml
