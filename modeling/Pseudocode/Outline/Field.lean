import Pseudocode.Outline.Basic
import Pseudocode.Statement.Convert

/-!
# Fields

A field is declared by an optional visibility, a type and a name, perhaps with a semicolon. Whether
a line has that shape is one question, and what it declares another: the first lets the visibility
run into the type, the second goes by the words of the line.
-/

namespace Pseudocode
namespace Line

/-- The type in a text of a type, white space, a name and perhaps a semicolon, with white space
before it. -/
def typeOfField? (t : Text) : Option Text :=
  match Text.spanWord (Text.trimStart t) with
  | ([], _) => none
  | (_, []) => none
  | (ty, c :: rest) =>
    if Text.isWhite c then
      match Text.spanWord (Text.trimStart rest) with
      | ([], _) => none
      | (_, []) => some ty
      | (_, [';']) => some ty
      | _ => none
    else none

/-- The rest of a line after a visibility at its start. -/
def afterVisibility? (line : Text) : Option Text :=
  Visibility.list.findSome? fun v => Keyword.after? v.word line

/-- The type in a line of the shape of a field; a visibility at the start is taken as one if the
rest allows it. -/
def fieldType? (line : Text) : Option Text :=
  ((afterVisibility? line).bind typeOfField?).or (typeOfField? line)

/-- Whether a line has the shape of a field and its type is not a word that leads statements. -/
def isField (line : Text) : Bool := (fieldType? line).any (!Keyword.leadsStatement ·)

end Line

namespace FieldEntry

/-- Reads the words of a line as visibility, type and name; a missing visibility means that only the
owner may use the field. -/
def ofLine (line : Text) : FieldEntry :=
  let words := Text.words line
  let (visibility, rest) := match words with
    | first :: rest =>
      match Visibility.ofWord? first with
      | some v => (v, rest)
      | none => (Visibility.owner, words)
    | [] => (Visibility.owner, [])
  match rest with
  | ty :: name :: _ =>
    .declared ⟨visibility, Statement.typeName ty, Text.dropEndWhile (· == ';') name⟩
  | _ => .unreadable line

def render : FieldEntry → Text
  | declared f => f.visibility.word ++ ' ' :: f.ty ++ ' ' :: f.name ++ [';']
  | unreadable line => "// ERROR: Invalid field declaration: ".toList ++ line

end FieldEntry
end Pseudocode
