import Pseudocode.Host.Files
import Pseudocode.Shell.Run

/-!
# Starting programs

The programs of a host are its utilities and scripts for the shell. A started program has three open
channels: its input, its output and its errors.
-/

namespace Pseudocode.Shell

def depthLimit : Nat := 1000000

/-- A session before anything has been run. -/
def Session.start (h : Host) (program : Text) (arguments : List Text) (input : List UInt8) :
    Session where
  host := h
  name := program
  arguments := arguments
  bindings := []
  functions := []
  channels := [(0, .source 0), (1, .stream 1), (2, .stream 2)]
  sources := [(0, ofBytes input)]
  streams := [(1, []), (2, [])]
  status := 0
  flow := .normal
  line := 0
  strict := false
  locals := []

/-- What a session leaves behind. -/
def Session.ended (s : Session) : Ended where
  host := s.host
  output := toBytes (s.written 1)
  errors := toBytes (s.written 2)
  unread := toBytes ((s.sources.lookup 0).getD [])
  status := if s.flow = .killed then none else some s.status

/-- Starts a program of the host. -/
def start : Starter := fun h program arguments input =>
  let name := ofHostText program
  let arguments := arguments.map ofHostText
  let s := Session.start h name arguments input
  if (program ++ arguments.flatten).contains '\x00' then .error .nulInArgument
  else
    match Executable.find h name with
    | .error cause => .error cause
    | .ok (.script switches script) =>
      .ok (runScript depthLimit (Builtin.set s switches) script).ended
    | .ok (.utility run leading) => .ok (run s (leading ++ arguments)).ended
    | .ok .shell => .ok (runWords depthLimit s name arguments).ended

end Pseudocode.Shell
