import Pseudocode.Statement.Keyword
import Pseudocode.Text.Case

/-!
# Headers

The lines that open a class or a method, and the line that closes a method. The keyword of a class
header is compared under simple case folding and followed by any white space; the keyword of a
method header is compared up to ASCII case and followed by one space.
-/

namespace Pseudocode

/-- A line `class Name` or `class Name, Parent`. -/
structure ClassHeader where
  name : Text
  parent : Option Text
deriving DecidableEq

namespace ClassHeader

/-- Reads what follows the keyword and its white space: a name and perhaps, after a comma, a
parent. -/
def ofNames? (t : Text) : Option ClassHeader :=
  match Text.spanWord t with
  | ([], _) => none
  | (name, []) => some ⟨name, none⟩
  | (name, rest) =>
    match Text.trimStart rest with
    | ',' :: rest =>
      match Text.spanWord (Text.trimStart rest) with
      | (c :: parent, []) => some ⟨name, some (c :: parent)⟩
      | _ => none
    | _ => none

/-- Reads a class header, which takes up the whole line. -/
def ofLine? (line : Text) : Option ClassHeader :=
  if (line.take 5).map Text.fold = "class".toList then
    match line.drop 5 with
    | c :: rest => if Text.isWhite c then ofNames? (Text.trimStart rest) else none
    | [] => none
  else none

end ClassHeader

namespace Line

/-- The header after the keyword of a method, trimmed. -/
def methodHeader? (line : Text) : Option Text :=
  (Keyword.after? "function ".toList line).map Text.trim

/-- Whether a line closes a method. -/
def closesMethod (line : Text) : Bool := Text.sameWord line "endfunction".toList

/-- Whether a line makes its whole text one of classes and methods. -/
def isStructural (line : Text) : Bool :=
  let line := Text.trim line
  (Keyword.after? "class ".toList line).isSome || (Keyword.after? "function ".toList line).isSome

end Line
end Pseudocode
