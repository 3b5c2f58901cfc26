import Pseudocode.Text.Case
import Pseudocode.Toml.Table

/-!
# Keys of settings

A setting is named by a key with dots and indices, as in `build.compiler`, and letter case does not
matter. Setting a key makes the tables on the way to it, in place of whatever else stands there.
-/

namespace Pseudocode.Settings

open Toml (Value)

/-- A table of settings. -/
abbrev Table := List (Text × Value)

/-- A step from a setting to one within it. -/
inductive Step where
  | name (text : Text)
  | index (i : Int)
deriving DecidableEq

/-- A key: a name in the outermost table and steps from there. -/
structure Key where
  root : Text
  steps : List Step
deriving DecidableEq

namespace Key

def isNameChar (c : Char) : Bool :=
  Text.isAsciiAlphanumeric c || c == ' ' || c == '_' || c == '-'

def index? (t : Text) : Option (Int × Text) :=
  let isGap (c : Char) : Bool := c == ' ' || c == '\t' || c == '\n' || c == '\r'
  let t := t.dropWhile isGap
  let (negative, t) := match t with
    | '-' :: rest => (true, rest)
    | t => (false, t)
  match t.span Text.isAsciiDigit with
  | ([], _) => none
  | (digits, rest) =>
    match rest.dropWhile isGap with
    | ']' :: rest =>
      let n : Int := Text.decimalValue digits
      some (if negative then -n else n, rest)
    | _ => none

def steps? : (fuel : Nat) → Text → Option (List Step)
  | _, [] => some []
  | 0, _ => none
  | fuel + 1, '.' :: rest =>
    match rest.span isNameChar with
    | ([], _) => none
    | (text, rest) => (steps? fuel rest).map (.name text :: ·)
  | fuel + 1, '[' :: rest => do
    let (i, rest) ← index? rest
    let steps ← steps? fuel rest
    return .index i :: steps
  | _ + 1, _ => none

def read? (t : Text) : Option Key :=
  match t.span isNameChar with
  | ([], _) => none
  | (root, rest) => (steps? rest.length rest).map (⟨root, ·⟩)

end Key

namespace Table

/-- The table with the entry of the given name set. -/
def put (name : Text) (v : Value) : Table → Table
  | [] => [(name, v)]
  | (n, old) :: rest => if n = name then (name, v) :: rest else (n, old) :: put name v rest

def ofValue : Value → Table
  | .table entries => entries
  | _ => []

/-- What stands where nothing has been set. -/
def unset : Value := .table []

mutual

/-- The table with a value merged in under a name: a table is merged entry by entry into the one
there, and anything else replaces what is there. -/
def merge (name : Text) (v : Value) (t : Table) : Table :=
  match v with
  | .table [] => if (t.lookup (Text.lower name)).isSome then t else put (Text.lower name) unset t
  | .table (entry :: entries) =>
    let old := ofValue ((t.lookup (Text.lower name)).getD unset)
    put (Text.lower name) (.table (mergeAll (entry :: entries) old)) t
  | v => put (Text.lower name) v t

/-- The table with entries merged in one after the other. -/
def mergeAll (entries : List (Text × Value)) (t : Table) : Table :=
  match entries with
  | [] => t
  | (name, v) :: rest => mergeAll rest (merge name v t)

end

def itemsOf : Value → List Value
  | .array items => items
  | _ => []

/-- The position that an index means; a negative one counts from the end. -/
def position (i : Int) (length : Nat) : Nat := if i < 0 then (length + i).toNat else i.toNat

/-- The items with the one at a position changed, after adding unset ones up to it. -/
def changeItem (f : Value → Value) (n : Nat) (items : List Value) : List Value :=
  let items := items ++ List.replicate (n + 1 - items.length) unset
  items.modify n f

/-- The value after setting what the steps lead to within it. -/
def setWithin (v : Value) : List Step → Value → Value
  | [], _ => v
  | [.name n], old => .table (merge n v (ofValue old))
  | .name n :: steps, old =>
    let entries := ofValue old
    let inner := (entries.lookup (Text.lower n)).getD unset
    .table (put (Text.lower n) (setWithin v steps inner) entries)
  | .index i :: steps, old =>
    let items := itemsOf old
    .array (changeItem (setWithin v steps) (position i items.length) items)

def set (key : Key) (v : Value) (t : Table) : Table :=
  match key.steps with
  | [] => merge key.root v t
  | steps =>
    let inner := (t.lookup (Text.lower key.root)).getD unset
    put (Text.lower key.root) (setWithin v steps inner) t

/-- The table after the entries of a document, whose names count as keys where they can be read as
such. -/
def layer (entries : List (Text × Value)) (t : Table) : Table :=
  entries.foldl (fun t (name, v) => set ((Key.read? name).getD ⟨name, []⟩) v t) t

end Table
end Pseudocode.Settings
