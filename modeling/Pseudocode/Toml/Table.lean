import Pseudocode.Text.Basic

/-!
# TOML values and tables

Numbers with a fraction and dates matter here only as texts, and are kept in the form in which they
are shown. A document defines each table and each key once. A table may be opened by a header, by
the headers of tables within it, or by keys with dots, and which of these it was decides what may
still be added to it.
-/

namespace Pseudocode.Toml

inductive Value where
  | string (text : Text)
  | integer (n : Int)
  | boolean (b : Bool)
  /-- A number with a fraction or an exponent. -/
  | float (shown : Text)
  /-- A date, a time or both. -/
  | date (shown : Text)
  | array (items : List Value)
  | table (entries : List (Text × Value))

/-- How a table of a document came about. -/
inductive TableKind where
  /-- By a header of its own. -/
  | explicit
  /-- By the header of a table within it. -/
  | implicit
  /-- By a key with dots. -/
  | dotted
deriving DecidableEq

/-- A node of a document in the making. -/
inductive Draft where
  | value (v : Value)
  | table (kind : TableKind) (entries : List (Text × Draft))
  /-- An array of tables, the entries of the last one first. -/
  | tables (last : List (Text × Draft)) (earlier : List (List (Text × Draft)))

abbrev Draft.Entries := List (Text × Draft)

namespace Draft

mutual

def finish : Draft → Value
  | value v => v
  | table _ entries => .table (finishEntries entries)
  | tables last earlier => .array (finishTables earlier ++ [.table (finishEntries last)])

def finishEntries : List (Text × Draft) → List (Text × Value)
  | [] => []
  | (key, draft) :: rest => (key, finish draft) :: finishEntries rest

/-- The finished tables of an array, which are given last first. -/
def finishTables : List (List (Text × Draft)) → List Value
  | [] => []
  | entries :: rest => finishTables rest ++ [.table (finishEntries entries)]

end

def set (key : Text) (d : Draft) : Entries → Entries
  | [] => [(key, d)]
  | (k, e) :: rest => if k = key then (key, d) :: rest else (k, e) :: set key d rest

/-- The entries after `f` has changed those of the table at a path. Tables on the way are opened
as `kind` where there are none; the last table of an array stands for the array. -/
def changeAt? (kind : TableKind) : (path : List Text) → (f : Entries → Option Entries) → Entries →
    Option Entries
  | [], f, entries => f entries
  | key :: path, f, entries =>
    match entries.lookup key with
    | none => (changeAt? kind path f []).map fun inner => set key (.table kind inner) entries
    | some (.table old inner) =>
      (changeAt? kind path f inner).map fun inner => set key (.table old inner) entries
    | some (.tables last earlier) =>
      (changeAt? kind path f last).map fun last => set key (.tables last earlier) entries
    | some (.value _) => none

def openTable? (path : List Text) (key : Text) : Entries → Option Entries :=
  changeAt? .implicit path fun entries =>
    match entries.lookup key with
    | none => some (set key (.table .explicit []) entries)
    | some (.table .implicit inner) => some (set key (.table .explicit inner) entries)
    | some _ => none

/-- The entries after the header of a further table of an array. -/
def openTables? (path : List Text) (key : Text) : Entries → Option Entries :=
  changeAt? .implicit path fun entries =>
    match entries.lookup key with
    | none => some (set key (.tables [] []) entries)
    | some (.tables last earlier) => some (set key (.tables [] (last :: earlier)) entries)
    | some _ => none

/-- The entries after one more key, perhaps with dots, and its value. A table on the way must have
been opened by such keys. -/
def add? : (path : List Text) → (key : Text) → Value → Entries → Option Entries
  | [], key, v, entries =>
    if (entries.lookup key).isSome then none else some (set key (.value v) entries)
  | first :: path, key, v, entries =>
    match entries.lookup first with
    | none => (add? path key v []).map fun inner => set first (.table .dotted inner) entries
    | some (.table .dotted inner) =>
      (add? path key v inner).map fun inner => set first (.table .dotted inner) entries
    | some _ => none

/-- The entries after one more key and value in the table at a path. -/
def addAt? (table path : List Text) (key : Text) (v : Value) : Entries → Option Entries :=
  changeAt? .implicit table (add? path key v)

end Draft
end Pseudocode.Toml
