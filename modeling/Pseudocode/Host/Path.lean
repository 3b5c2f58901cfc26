import Pseudocode.Text.Ascii

/-!
# Paths

Paths as they are written: names between slashes, from the root if the first sign is a slash.
-/

namespace Pseudocode.Path

def isAbsolute (path : Text) : Bool := path.head? == some '/'

/-- The parts of a path between slashes; a slash at the end leaves an empty last part. -/
def parts (path : Text) : List Text :=
  let parts := Text.splitAt (· == '/') path
  parts.dropLast.filter (!·.isEmpty) ++ [parts.getLastD []]

/-- A path below a directory; one from the root stands for itself. -/
def join (directory path : Text) : Text :=
  if isAbsolute path || directory.isEmpty then path
  else if directory.getLast? = some '/' then directory ++ path
  else directory ++ '/' :: path

/-- The last name of a path, unless it ends in two dots. -/
def name? (path : Text) : Option Text :=
  let names := (parts path).filter fun part => !part.isEmpty && part != ['.']
  match names.getLast? with
  | none => none
  | some name => if name = ['.', '.'] then none else some name

/-- What follows the last dot of the last name, if the dot is not its first sign. -/
def extension? (path : Text) : Option Text :=
  match name? path with
  | none => none
  | some name =>
    let ending := (name.reverse.takeWhile (· != '.')).reverse
    if ending.length + 1 < name.length then some ending else none

/-- Whether a path has one of the extensions, up to the case of ASCII letters. -/
def hasExtension (path : Text) (extensions : List Text) : Bool :=
  (extension? path).any fun ending => extensions.any (Text.sameWord ending)

/-- The path with an extension appended to its last name, if it has one. -/
def withExtension? (path extension : Text) : Option Text :=
  (name? path).map fun _ => Text.dropEndWhile (· == '/') path ++ '.' :: extension

end Pseudocode.Path
