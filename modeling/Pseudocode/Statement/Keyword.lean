import Pseudocode.Text.Utf8
import Pseudocode.Text.WhiteSpace
import Pseudocode.Text.Word

/-!
# Keywords

The words that lead statements, and how a leading keyword is recognised. A keyword claims as many
bytes at the start of a line as it has itself, so that a line whose characters straddle that length
does not begin with it.
-/

namespace Pseudocode.Keyword

/-- The text cut after its first `size` bytes, if a character ends there. -/
def cutAtByte? : (size : Nat) → Text → Option (Text × Text)
  | 0, t => some ([], t)
  | _ + 1, [] => none
  | size + 1, c :: rest =>
    if Text.byteLength c ≤ size + 1 then
      (cutAtByte? (size + 1 - Text.byteLength c) rest).map fun (head, rest) => (c :: head, rest)
    else none

/-- What follows a keyword at the start of a line, if the line begins with it up to the case of
ASCII letters. -/
def after? (keyword line : Text) : Option Text :=
  match cutAtByte? (Text.byteSize keyword) line with
  | some (head, rest) => if Text.sameWord head keyword then some rest else none
  | none => none

/-- The words that lead a statement, whatever follows them. -/
def statementWords : List Text :=
  ["print", "input", "return", "if", "else", "while", "for", "call", "set", "declare", "increment",
    "decrement", "next", "end"].map String.toList

/-- Whether a word leads statements, up to the case of ASCII letters. -/
def leadsStatement (word : Text) : Bool := statementWords.any (Text.sameWord · word)

/-- A character that can stand in the first word of a statement. -/
def isStatementChar (c : Char) : Bool := Text.isAlphanumeric c || c == '_'

/-- Whether a line begins with a word that leads statements. -/
def startsStatement (line : Text) : Bool := leadsStatement (line.takeWhile isStatementChar)

end Pseudocode.Keyword
