import Pseudocode.Java.Program
import Pseudocode.Outline.Scan
import Pseudocode.Rule.Standard

/-!
# Conversion

A text is converted in one of two modes. Without a line that names a class or a method, every line
is a statement of one program; otherwise the lines are scanned into classes. Conversion always gives
a result: what cannot be read becomes a comment.
-/

namespace Pseudocode

/-- How a text is converted. -/
inductive Mode where
  /-- Every line is a statement of the entry point of one class. -/
  | procedural
  /-- Lines are scanned into classes, fields and methods. -/
  | structural
deriving DecidableEq

def Mode.ofLines (lines : List Text) : Mode :=
  if lines.any Line.isStructural then .structural else .procedural

def Mode.name : Mode → Text
  | procedural => "procedural".toList
  | structural => "structural".toList

/-- What a text is converted with: the rules, the class that collects statements without a header
and is launched if there is such a class, and the text of one level of indentation. -/
structure Converter where
  book : Rulebook
  defaultClass : Text
  indent : Text

/-- The result of converting a text. -/
structure Conversion where
  mode : Mode
  outline : Outline
  program : Java.Program

namespace Converter

/-- The converter with the given rules, the class `Main` and four spaces. -/
def ofBook (book : Rulebook) : Converter :=
  ⟨book, Java.Style.standard.preferredEntry, Java.Style.standard.indent⟩

def style (c : Converter) : Java.Style := ⟨c.indent, c.defaultClass⟩

/-- The outline of a text without headers: one class with the statements of all lines. -/
def proceduralOutline (c : Converter) (lines : List Text) : Outline :=
  ⟨[{ ClassOutline.bare c.defaultClass none with
      statements := lines.map fun line => c.book.convert (Text.trim line) }]⟩

def convertLines (c : Converter) (lines : List Text) : Conversion :=
  match Mode.ofLines lines with
  | .procedural =>
    let outline := c.proceduralOutline lines
    ⟨.procedural, outline, .ofOutline c.style .always outline⟩
  | .structural =>
    let outline := Outline.ofLines c.book c.defaultClass lines
    ⟨.structural, outline, .ofOutline c.style .whenNeeded outline⟩

/-- Converts a text of lines. -/
def convert (c : Converter) (t : Text) : Conversion := c.convertLines (Text.lines t)

end Converter
end Pseudocode
