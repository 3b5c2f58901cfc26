import Pseudocode.Host.Files
import Pseudocode.Shell.Word
import Pseudocode.Shell.Grammar

/-!
# Sessions

All that changes while a script runs: the host, variables, open channels with what has been read and
written through them, the status of the last command, and whether the run goes on.
-/

namespace Pseudocode.Shell

/-- Where a channel leads. -/
inductive Channel where
  /-- A text that is read. -/
  | source (id : Nat)
  /-- A text that is written. -/
  | stream (id : Nat)
  | file (place : Location)
  | nothing
deriving DecidableEq

/-- What happens after a command. -/
inductive Flow where
  | normal
  | breaks (loops : Nat)
  | continues (loops : Nat)
  | returns
  | exits
  /-- A signal has ended the script. -/
  | killed
deriving DecidableEq

/-- A run of scripts. -/
structure Session where
  host : Host
  /-- The name of the script. -/
  name : Text
  arguments : List Text
  bindings : List (Text × Text)
  functions : List (Text × Command)
  channels : List (Nat × Channel)
  /-- What is left to read of each source. -/
  sources : List (Nat × Text)
  /-- What has been written to each stream, the last character first. -/
  streams : List (Nat × Text)
  status : Nat
  flow : Flow
  /-- The number of the line that is carried out. -/
  line : Nat
  /-- Whether a command that fails ends the script. -/
  strict : Bool
  /-- The variables that the current function has of its own, each with the value that it had
  before, the last one first. -/
  locals : List (Text × Option Text)

namespace Session

/-- A list of pairs with a value for a key, instead of the one that it has. -/
def assoc {α β : Type} [DecidableEq α] (key : α) (value : β) : List (α × β) → List (α × β)
  | [] => [(key, value)]
  | (k, v) :: rest => if k = key then (key, value) :: rest else (k, v) :: assoc key value rest

def lookUp? (s : Session) (name : Text) : Option Text := s.bindings.lookup name

def set (s : Session) (name value : Text) : Session :=
  { s with bindings := assoc name value s.bindings }

def unset (s : Session) (name : Text) : Session :=
  { s with bindings := s.bindings.filter (·.1 != name) }

/-- Gives variables back the values that they had, or takes them away. -/
def restore (s : Session) (before : List (Text × Option Text)) : Session :=
  before.foldl (fun s (name, value?) =>
    match value? with
    | some value => s.set name value
    | none => s.unset name) s

def withStatus (s : Session) (status : Nat) : Session := { s with status := status }

/-- A number that no source or stream has. -/
def fresh (s : Session) : Nat := s.sources.length + s.streams.length

def openSource (s : Session) (channel : Nat) (t : Text) : Session :=
  let id := s.fresh
  { s with sources := (id, t) :: s.sources, channels := assoc channel (.source id) s.channels }

/-- Opens a channel onto a text that is written, and gives the number of the stream. -/
def openStream (s : Session) (channel : Nat) : Session × Nat :=
  let id := s.fresh
  ({ s with streams := (id, []) :: s.streams, channels := assoc channel (.stream id) s.channels }, id)

/-- What has been written to a stream. -/
def written (s : Session) (id : Nat) : Text := ((s.streams.lookup id).getD []).reverse

def print (s : Session) (channel : Nat) (t : Text) : Session :=
  match s.channels.lookup channel with
  | some (.stream id) =>
    { s with streams := assoc id (t.reverseAux ((s.streams.lookup id).getD [])) s.streams }
  | some (.file place) =>
    match s.host.entry? place with
    | some (.file bytes executable) =>
      { s with host := s.host.put place (.file (bytes ++ toBytes t) executable) }
    | _ => s
  | _ => s

def say (s : Session) (t : Text) : Session := s.print 1 t

def warn (s : Session) (t : Text) : Session := s.print 2 (t ++ ['\n'])

/-- Reports what is wrong with a command of the script, as the shell does. -/
def complain (s : Session) (t : Text) : Session :=
  s.warn (s.name ++ ": ".toList ++ Text.ofNat s.line ++ ": ".toList ++ t)

/-- What is left to read of standard input. -/
def input (s : Session) : Text :=
  match s.channels.lookup 0 with
  | some (.source id) => (s.sources.lookup id).getD []
  | _ => []

/-- Leaves only a part of standard input to be read. -/
def leave (s : Session) (rest : Text) : Session :=
  match s.channels.lookup 0 with
  | some (.source id) => { s with sources := assoc id rest s.sources }
  | _ => s

def contents (s : Session) (path : Text) : Except HostFault Text :=
  (s.host.contents (toHostText path)).map ofBytes

def entryAt? (s : Session) (path : Text) : Option Entry := s.host.entryAt? (toHostText path)

def special? (s : Session) (name : Text) : Option Text :=
  match name with
  | ['#'] => some (Text.ofNat s.arguments.length)
  | ['?'] => some (Text.ofNat s.status)
  | ['$'] => some "1".toList
  | ['!'] => none
  | ['-'] => some []
  | ['0'] => some s.name
  | digits =>
    if !digits.isEmpty && digits.all Text.isAsciiDigit then
      let n := Text.decimalValue digits
      if n = 0 then some s.name else s.arguments[n - 1]?
    else none

def parameter? (s : Session) (name : Text) : Option Text := (s.special? name).or (s.lookUp? name)

def separators (s : Session) : Text := (s.lookUp? "IFS".toList).getD " \t\n".toList

end Session
end Pseudocode.Shell
