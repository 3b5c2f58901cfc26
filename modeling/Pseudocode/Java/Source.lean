import Pseudocode.Outline.Field
import Pseudocode.Outline.Signature

/-!
# Java source

Each class of an outline becomes one source file: imports in the entry class, the class head, then
the fields, the methods and the entry point, each after an empty line.
-/

namespace Pseudocode.Java

/-- Parts of lines put together into a line with its line feed. -/
def line (parts : List Text) : Text := parts.flatten ++ ['\n']

def method (indent : Text) (m : Method) : Text :=
  let note := match m.signature.diagnostic with
    | some text => line [indent, "// ".toList, text]
    | none => []
  note ++ line [indent, m.signature.declaration, " \x7b".toList]
    ++ m.body.flatMap (fun statement => line [indent, indent, statement])
    ++ line [indent, "\x7d".toList]

/-- The entry point of a class; blank statements are left out. Outside the entry class the type of
the scanner is spelt in full, since there are no imports. -/
def entryPoint (indent : Text) (isEntry : Bool) (statements : List Text) : Text :=
  let scanner := if isEntry then "Scanner".toList else "java.util.Scanner".toList
  line [indent, "public static void main(String[] args) \x7b".toList]
    ++ line [indent, indent, scanner, [' '], Statement.scannerName, " = new ".toList, scanner,
      "(System.in);".toList]
    ++ (statements.filter (!Text.isBlank ·)).flatMap
      (fun statement => line [indent, indent, statement])
    ++ line [indent, "\x7d".toList]

def blocks (indent : Text) (c : ClassOutline) (isEntry forceMain : Bool) : List Text :=
  let fields :=
    if c.fields.isEmpty then []
    else [c.fields.flatMap fun entry => line [indent, entry.render]]
  let entry :=
    if c.hasEntry || forceMain then [entryPoint indent isEntry c.statements] else []
  fields ++ c.methods.map (method indent) ++ entry

/-- The imports of the entry class and an empty line. -/
def imports : Text := "import java.util.*;\n\n".toList

/-- The head of a class. -/
def head (c : ClassOutline) : Text :=
  let parent := match c.parent with
    | some name => " extends ".toList ++ name
    | none => []
  line ["public class ".toList, c.name, parent, " \x7b".toList]

/-- The source of a class. `isEntry` says whether it is the class to launch, and `forceMain` whether
it has an entry point even without statements. -/
def source (indent : Text) (c : ClassOutline) (isEntry forceMain : Bool) : Text :=
  (if isEntry then imports else []) ++ head c
    ++ (blocks indent c isEntry forceMain).flatMap ('\n' :: ·) ++ line ["\x7d".toList]

end Pseudocode.Java
