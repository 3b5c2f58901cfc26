import Pseudocode.Host.Files
import Pseudocode.Java.Program

/-!
# Emission

The source files of a program are written into one directory, in order. The first refusal of the
host ends emission; files written before it stay.
-/

namespace Pseudocode

/-- What the host has refused to do with the file or directory at a path. -/
structure FileFault where
  path : Text
  cause : HostFault
deriving DecidableEq

def FileFault.message (f : FileFault) : Text := f.path ++ ": ".toList ++ f.cause.message

namespace Java

/-- Writes source files into a directory: the host afterwards, and the paths of the files. -/
def SourceFile.writeAll (directory : Text) : (h : Host) → List SourceFile →
    Host × Except FileFault (List Text)
  | h, [] => (h, .ok [])
  | h, unit :: rest =>
    let path := Path.join directory unit.fileName
    match h.write path (Text.encode unit.source) with
    | .error cause => (h, .error ⟨path, cause⟩)
    | .ok h =>
      let (h, written) := writeAll directory h rest
      (h, written.map (path :: ·))

/-- Writes a program into a directory, which is created if it is missing. -/
def Program.emit (p : Program) (h : Host) (directory : Text) :
    Host × Except FileFault (List Text) :=
  match h.makeDirectories directory with
  | .error cause => (h, .error ⟨directory, cause⟩)
  | .ok h => SourceFile.writeAll directory h p.units

end Java
end Pseudocode
