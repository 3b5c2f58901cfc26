import Pseudocode.Host.Fault
import Pseudocode.Host.Path
import Pseudocode.Text.Utf8

/-!
# The host

The files of the host as a value: what stands at each place, and the directory from which paths are
followed. Reading never changes a host, and each change is a new one. How the programs of a host
behave is a parameter of everything that starts one: a function from what a program is given to what
it leaves.
-/

namespace Pseudocode

/-- What stands at a place. -/
inductive Entry where
  | directory
  | file (bytes : List UInt8) (executable : Bool)
  /-- A file that takes everything and gives nothing. -/
  | sink
  /-- A program of the system. -/
  | utility
deriving DecidableEq

/-- A place: the names on the way from the root. -/
abbrev Location := List Text

/-- The files of a host and the directory where a program works. -/
structure Host where
  entries : List (Location × Entry)
  workingDirectory : Location

namespace Host

/-- What stands at a place; the root is a directory. -/
def entry? (h : Host) (place : Location) : Option Entry :=
  if place.isEmpty then some .directory else h.entries.lookup place

/-- Puts an entry at a place, instead of the one there if there is one. -/
def putIn (place : Location) (e : Entry) :
    List (Location × Entry) → List (Location × Entry)
  | [] => [(place, e)]
  | (p, old) :: rest => if p = place then (place, e) :: rest else (p, old) :: putIn place e rest

def put (h : Host) (place : Location) (e : Entry) : Host :=
  { h with entries := putIn place e h.entries }

/-- The host without what stands at a place or below it. -/
def remove (h : Host) (place : Location) : Host :=
  { h with entries := h.entries.filter (!place.isPrefixOf ·.1) }

/-- The longest name, in bytes. -/
def longestName : Nat := 255

/-- The longest path, in bytes. -/
def longestPath : Nat := 4095

/-- Follows names from a place, each but the last into a directory. Nothing need stand at the place
where the way ends. -/
def follow (h : Host) : (place : Location) → List Text → Except HostFault Location
  | place, [] => .ok place
  | place, name :: rest =>
    match h.entry? place with
    | none => .error .notFound
    | some .directory =>
      if name.isEmpty ∨ name = ['.'] then h.follow place rest
      else if name = ['.', '.'] then h.follow place.dropLast rest
      else if Text.byteSize name > longestName then .error .nameTooLong
      else h.follow (place ++ [name]) rest
    | some _ => .error .notDirectory

/-- The place that a path leads to. -/
def place (h : Host) (path : Text) : Except HostFault Location :=
  if path.contains '\x00' then .error .nulInName
  else if path.isEmpty then .error .notFound
  else if Text.byteSize path > longestPath then .error .nameTooLong
  else h.follow (if Path.isAbsolute path then [] else h.workingDirectory) (Path.parts path)

def entryAt? (h : Host) (path : Text) : Option Entry :=
  match h.place path with
  | .ok place => h.entry? place
  | .error _ => none

/-- Whether a path leads to a file with contents of its own. -/
def isFile (h : Host) (path : Text) : Bool :=
  match h.entryAt? path with
  | some (.file ..) => true
  | some .utility => true
  | _ => false

def contents (h : Host) (path : Text) : Except HostFault (List UInt8) := do
  match h.entry? (← h.place path) with
  | none => .error .notFound
  | some .directory => .error .isDirectory
  | some (.file bytes _) => .ok bytes
  | some .sink => .ok []
  | some .utility => .ok [0x7f, 0x45, 0x4c, 0x46, 0x80]

def text (h : Host) (path : Text) : Except HostFault Text := do
  match Text.decode? (← h.contents path) with
  | some t => .ok t
  | none => .error .notText

/-- The host after a file has been given new contents, or created with them. -/
def write (h : Host) (path : Text) (bytes : List UInt8) : Except HostFault Host := do
  let place ← h.place path
  match h.entry? place with
  | some .directory => .error .isDirectory
  | some (.file _ executable) => .ok (h.put place (.file bytes executable))
  | some .sink => .ok h
  | some .utility => .error .permissionDenied
  | none =>
    match h.entry? place.dropLast with
    | some .directory =>
      if path.getLast? = some '/' then .error .isDirectory
      else .ok (h.put place (.file bytes false))
    | some _ => .error .notDirectory
    | none => .error .notFound

/-- The host with a directory at the end of names that are followed from a place. -/
def makeDirectoryFrom (h : Host) (start : Location) (names : List Text) :
    Except HostFault Host := do
  let place ← h.follow start names
  match h.entry? place with
  | some _ => .error .alreadyExists
  | none =>
    match h.entry? place.dropLast with
    | some .directory => .ok (h.put place .directory)
    | some _ => .error .notDirectory
    | none => .error .notFound

/-- The host with a directory at the end of names, and directories on the way to it, unless there
are such already. The names are given last first. -/
def makeDirectoriesFrom (h : Host) (start : Location) : List Text → Except HostFault Host
  | [] => .ok h
  | name :: outer =>
    let names := (name :: outer).reverse
    let isDirectory (h : Host) : Bool :=
      match h.follow start names with
      | .ok place => h.entry? place == some .directory
      | .error _ => false
    match h.makeDirectoryFrom start names with
    | .ok h => .ok h
    | .error .notFound =>
      match h.makeDirectoriesFrom start outer with
      | .error fault => .error fault
      | .ok h =>
        match h.makeDirectoryFrom start names with
        | .ok h => .ok h
        | .error fault => if isDirectory h then .ok h else .error fault
    | .error fault => if isDirectory h then .ok h else .error fault

/-- The host with a directory where a path leads, and with those on the way to it. The empty path
asks for nothing. -/
def makeDirectories (h : Host) (path : Text) : Except HostFault Host :=
  if path.isEmpty then .ok h
  else if path.contains '\x00' then .error .nulInName
  else if Text.byteSize path > longestPath then .error .nameTooLong
  else
    let start := if Path.isAbsolute path then [] else h.workingDirectory
    let names := (Path.parts path).filter fun name => !name.isEmpty && name != ['.']
    h.makeDirectoriesFrom start names.reverse

/-- The host where programs work in the directory that a path leads to. -/
def enter (h : Host) (path : Text) : Except HostFault Host := do
  let place ← h.place path
  match h.entry? place with
  | some .directory => .ok { h with workingDirectory := place }
  | some _ => .error .notDirectory
  | none => .error .notFound

/-- The files below a directory, each with its path from there and its bytes. -/
def filesBelow (h : Host) (place : Location) : List (Text × List UInt8) :=
  h.entries.filterMap fun (p, e) =>
    match e with
    | .file bytes _ =>
      if place.isPrefixOf p && place.length < p.length then
        some (Text.joinWith ['/'] (p.drop place.length), bytes)
      else none
    | _ => none

/-- The files below the directory that a path leads to, sorted by their paths, which go on from
that one without a leading `./`. -/
def listing (h : Host) (path : Text) : List (Text × List UInt8) :=
  match h.place path with
  | .error _ => []
  | .ok place =>
    let files := (h.filesBelow place).map fun (below, bytes) =>
      let path := Path.join path below
      ((Text.dropStart? "./".toList path).getD path, bytes)
    files.mergeSort fun a b => Text.notAfter a.1 b.1

end Host

/-! ### Programs -/

/-- What a program leaves behind when it has ended. -/
structure Ended where
  host : Host
  output : List UInt8
  errors : List UInt8
  /-- What it has not read of its input. -/
  unread : List UInt8
  /-- Its exit status, unless a signal ended it. -/
  status : Option Nat

/-- Starts a program by its name, in the working directory of a host, with arguments and input. -/
abbrev Starter :=
  Host → (program : Text) → (arguments : List Text) → (input : List UInt8) →
    Except HostFault Ended

end Pseudocode
