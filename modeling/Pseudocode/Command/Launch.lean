import Pseudocode.Java.Emission
import Pseudocode.Settings.Basic
import Pseudocode.Text.Utf8

/-!
# Building and running

A program is written into the work directory and handed to the compiler. If that succeeds the entry
class is launched there; lines of input are forwarded to it, and its lines of output come back, with
what is not text replaced.
-/

namespace Pseudocode.Command

/-- Why a program is not launched. -/
inductive LaunchFault where
  | file (fault : FileFault)
  | start (program : Text) (cause : HostFault)
deriving DecidableEq

/-- The sentence that reports why a program is not launched. -/
def LaunchFault.message : LaunchFault → Text
  | file fault => fault.message
  | start program cause =>
    "Cannot start '".toList ++ program ++ "': ".toList ++ cause.message

/-- What has become of a program. -/
inductive Launched where
  | fault (fault : LaunchFault)
  /-- The compiler has refused the program. -/
  | notBuilt (diagnostics : Text)
  | ran (output errors : List Text) (status : Option Nat)
deriving DecidableEq

/-- Bytes cut after each line feed, which is left out; nothing follows the last one. -/
def byteLines (bytes : List UInt8) : List (List UInt8) :=
  let cut := bytes.foldr (fun b (lines : List (List UInt8)) =>
    if b = 10 then [] :: lines
    else match lines with
      | line :: rest => (b :: line) :: rest
      | [] => [[b]]) [[]]
  if cut.getLast? = some [] then cut.dropLast else cut

/-- A line without the carriage return at its end. -/
def dropLastReturn (line : List UInt8) : List UInt8 :=
  if line.getLast? = some 13 then line.dropLast else line

/-- The text of a line of output. -/
def shownLine (line : List UInt8) : Text := Text.decodeLossy (dropLastReturn line)

def shownLines (bytes : List UInt8) : List Text := (byteLines bytes).map shownLine

/-- The lines of input that are forwarded: those before the first that is not text. -/
def textLines (input : List UInt8) : List (List UInt8) :=
  (byteLines input).takeWhile fun line => (Text.decode? line).isSome

/-- The input that a launched program is given: each line ends in a line feed alone. Only a carriage
return before a line feed is dropped. -/
def forwarded (input : List UInt8) : List UInt8 :=
  let lines := textLines input
  let isCut (i : Nat) : Bool := i + 1 < (byteLines input).length || input.getLast? = some 10
  lines.zipIdx.flatMap fun (line, i) => (if isCut i then dropLastReturn line else line) ++ [10]

/-- Starts a program in a directory; the host works where it did before when the program has
ended. -/
def startIn (start : Starter) (h : Host) (directory program : Text) (arguments : List Text)
    (input : List UInt8) : Except HostFault Ended := do
  let ended ← start (← h.enter directory) program arguments input
  return { ended with host := { ended.host with workingDirectory := h.workingDirectory } }

/-- Writes files into a directory one after the other and adds their paths to those already
written. -/
def writeFrom (directory : Text) : (h : Host) → (written : List Text) → List Java.SourceFile →
    Host × Except FileFault (List Text)
  | h, written, [] => (h, .ok written)
  | h, written, unit :: rest =>
    let path := Path.join directory unit.fileName
    match h.write path (Text.encode unit.source) with
    | .error cause => (h, .error ⟨path, cause⟩)
    | .ok h => writeFrom directory h (written ++ [path]) rest

/-- Writes the files that are to be built into a directory, which is created if it is missing: the
host afterwards, and the paths of the files. -/
def writeUnits (h : Host) (directory : Text) (units : List Java.SourceFile) :
    Host × Except FileFault (List Text) :=
  match h.makeDirectories directory with
  | .error cause => (h, .error ⟨directory, cause⟩)
  | .ok h => writeFrom directory h [] units

/-- Builds and runs a program: the host afterwards, and what has become of the program. -/
def launch (start : Starter) (s : Settings) (p : Java.Program) (h : Host) (input : List UInt8) :
    Host × Launched :=
  match writeUnits h s.workDirectory p.units with
  | (h, .error fault) => (h, .fault (.file fault))
  | (h, .ok _) =>
    match startIn start h s.workDirectory s.compiler (p.units.map (·.fileName)) input with
    | .error cause => (h, .fault (.start s.compiler cause))
    | .ok built =>
      if built.status = some 0 then
        let arguments := ["-cp".toList, ".".toList, p.entryClass]
        match startIn start built.host s.workDirectory s.runtime arguments
          (forwarded built.unread) with
        | .error cause => (built.host, .fault (.start s.runtime cause))
        | .ok ran => (ran.host, .ran (shownLines ran.output) (shownLines ran.errors) ran.status)
      else
        (built.host, .notBuilt (Text.decodeLossy built.errors ++ Text.decodeLossy built.output))

end Pseudocode.Command
