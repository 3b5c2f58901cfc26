import Pseudocode.Toml.Scalar
import Pseudocode.Toml.Table

/-!
# Reading TOML

A document is a sequence of lines: headers of tables, keys with values, comments and empty lines.
-/

namespace Pseudocode.Toml

def isKeyChar (c : Char) : Bool := Text.isAsciiAlphanumeric c || c == '_' || c == '-'

def simpleKey? (t : Text) : Option (Text × Text) :=
  match t with
  | '"' :: _ => lineString? t
  | '\'' :: _ => lineString? t
  | _ =>
    match t.span isKeyChar with
    | ([], _) => none
    | found => some found

/-- Reads a key with its dots, as the parts before the last and the last. -/
def key? : (fuel : Nat) → Text → Option (List Text × Text × Text)
  | 0, _ => none
  | fuel + 1, t => do
    let (first, rest) ← simpleKey? (skipBlanks t)
    match skipBlanks rest with
    | '.' :: rest =>
      let (path, last, rest) ← key? fuel rest
      return (first :: path, last, rest)
    | rest => return ([], first, rest)

/-- The text after blanks, line ends and comments. -/
def skipLines : (fuel : Nat) → Text → Text
  | 0, t => t
  | fuel + 1, t =>
    let t := skipComment (skipBlanks t)
    match newLine? t with
    | some rest => skipLines fuel rest
    | none => t

section Collections

variable (value : Text → Option (Value × Text))

/-- Reads the items of an array up to its end; a comma may follow the last. -/
def items? : (fuel : Nat) → Text → Option (List Value × Text)
  | 0, _ => none
  | fuel + 1, t =>
    match skipLines (t.length + 1) t with
    | ']' :: rest => some ([], rest)
    | t => do
      let (first, rest) ← value t
      match skipLines (rest.length + 1) rest with
      | ',' :: rest =>
        let (items, rest) ← items? fuel rest
        return (first :: items, rest)
      | ']' :: rest => return ([first], rest)
      | _ => none

def keyValue? (t : Text) : Option ((List Text × Text) × Value × Text) := do
  let (path, key, rest) ← key? (t.length + 1) t
  let (v, rest) ← value (skipBlanks (← sign? '=' rest))
  return ((path, key), v, rest)

/-- Reads the entries of a table in braces up to its end; they stand in one line, and no comma
follows the last. -/
def inlineEntries? : (fuel : Nat) → Draft.Entries → Text → Option (Draft.Entries × Text)
  | 0, _, _ => none
  | fuel + 1, entries, t => do
    let ((path, key), v, rest) ← keyValue? value t
    let entries ← Draft.add? path key v entries
    match skipBlanks rest with
    | ',' :: rest => inlineEntries? fuel entries rest
    | '\x7d' :: rest => return (entries, rest)
    | _ => none

def inlineTable? (t : Text) : Option (Value × Text) :=
  match skipBlanks t with
  | '\x7d' :: rest => some (.table [], rest)
  | t => (inlineEntries? value (t.length + 1) [] t).map fun (entries, rest) =>
    (.table (Draft.finishEntries entries), rest)

end Collections

def value? : (fuel : Nat) → Text → Option (Value × Text)
  | 0, _ => none
  | fuel + 1, t =>
    match t with
    | '[' :: rest =>
      (items? (value? fuel) (rest.length + 1) rest).map fun (items, rest) => (.array items, rest)
    | '\x7b' :: rest => inlineTable? (value? fuel) rest
    | t => scalar? t

/-- A document that is being read: its entries and the path of the table that the next keys belong
to. -/
structure Reading where
  entries : Draft.Entries
  table : List Text

namespace Reading

def line? (r : Reading) (t : Text) : Option (Reading × Text) :=
  match t with
  | [] => some (r, t)
  | '#' :: _ => some (r, t)
  | '[' :: '[' :: rest => do
    let (path, key, rest) ← key? (rest.length + 1) rest
    let rest ← sign? ']' (← sign? ']' rest)
    let entries ← Draft.openTables? path key r.entries
    return (⟨entries, path ++ [key]⟩, rest)
  | '[' :: rest => do
    let (path, key, rest) ← key? (rest.length + 1) rest
    let rest ← sign? ']' rest
    let entries ← Draft.openTable? path key r.entries
    return (⟨entries, path ++ [key]⟩, rest)
  | _ =>
    if (newLine? t).isSome then some (r, t)
    else do
      let ((path, key), v, rest) ← keyValue? (value? (t.length + 1)) t
      let entries ← Draft.addAt? r.table path key v r.entries
      return ({ r with entries }, rest)

def lines? : (fuel : Nat) → Reading → Text → Option Draft.Entries
  | 0, _, _ => none
  | fuel + 1, r, t => do
    let (r, rest) ← r.line? (skipBlanks t)
    match skipComment (skipBlanks rest) with
    | [] => return r.entries
    | rest => lines? fuel r (← newLine? rest)

end Reading

/-- The entries of a TOML document. A byte order mark at its start is skipped. -/
def read? (t : Text) : Option (List (Text × Value)) :=
  let t := match t with
    | '\ufeff' :: rest => rest
    | t => t
  (Reading.lines? (t.length + 1) ⟨[], []⟩ t).map Draft.finishEntries

end Pseudocode.Toml
