import Pseudocode.Rule.Basic
import Pseudocode.Statement.Keyword

/-!
# Converting a line

A line becomes one statement: by the first rule that applies, else as one that reads a typed value
or prints an expression, else as it stands with a semicolon. Conversion always gives a result.
-/

namespace Pseudocode
namespace Statement

/-- The name of the scanner that every entry point declares. -/
def scannerName : Text := "sc".toList

/-- The type of that name in the generated source: `string` in any case becomes `String`. -/
def typeName (ty : Text) : Text :=
  if Text.sameWord ty "string".toList then "String".toList else ty

/-- The type and the scanner method that read a value of a written type. -/
def scannerRead? (ty : Text) : Option (Text × Text) :=
  if ty = "int".toList then some (ty, "nextInt".toList)
  else if ty = "double".toList then some (ty, "nextDouble".toList)
  else if ty = "boolean".toList then some (ty, "nextBoolean".toList)
  else if ty = "string".toList then some ("String".toList, "nextLine".toList)
  else none

/-- The statement for `input <type> <name>`; a line that begins otherwise has none. A line that is
too short or names an unknown type becomes a comment that says so. -/
def input? (line : Text) : Option Text :=
  (Keyword.after? "input".toList line).map fun _ =>
    match Text.words line with
    | _ :: ty :: name :: _ =>
      match scannerRead? (Text.lower ty) with
      | some (ty, method) =>
        ty ++ ' ' :: name ++ " = ".toList ++ scannerName ++ '.' :: method ++ "();".toList
      | none => "// ERROR: Unsupported input type: ".toList ++ Text.lower ty
    | _ => "// ERROR: Invalid input statement: ".toList ++ line

/-- The statement for `print <expression>`; a line that begins otherwise has none. An expression
that opens a parenthesis is taken to bring its own. -/
def print? (line : Text) : Option Text :=
  (Keyword.after? "print".toList line).map fun rest =>
    match Text.trim rest with
    | '(' :: content => "System.out.println(".toList ++ content ++ [';']
    | content => "System.out.println(".toList ++ content ++ ");".toList

/-- A character that ends a statement or a block. -/
def isTerminator (c : Char) : Bool := c == ';' || c == '\x7b' || c == '\x7d'

/-- The line with a semicolon, unless it is empty or ends a statement or block already. -/
def terminate (line : Text) : Text :=
  match line.getLast? with
  | some c => if isTerminator c then line else line ++ [';']
  | none => line

end Statement

/-- The statement for a trimmed line. -/
def Rulebook.convert (book : Rulebook) (line : Text) : Text :=
  match book.statement? line with
  | some statement => statement
  | none =>
    match Statement.input? line with
    | some statement => statement
    | none => (Statement.print? line).getD (Statement.terminate line)

end Pseudocode
