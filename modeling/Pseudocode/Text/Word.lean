import Pseudocode.Text.Ascii
import Pseudocode.Text.Ranges
import Pseudocode.Text.Table.Alphabetic
import Pseudocode.Text.Table.Mark
import Pseudocode.Text.Table.Numeral

/-!
# Word characters

A name is made of word characters: letters, marks, decimal digits and connectors of every script.
The narrower class of letters and numerals of any kind, with the low line, delimits the first word
of a statement.
-/

namespace Pseudocode.Text

def isDigit (c : Char) : Bool :=
  if c.toNat < 128 then isAsciiDigit c else inRanges c.toNat Table.decimal

def isAlphabetic (c : Char) : Bool := inRanges c.toNat Table.alphabetic

/-- A character that can stand in a name: alphabetic, a mark, a decimal digit or a connector. -/
def isWordChar (c : Char) : Bool :=
  if c.toNat < 128 then isAsciiAlphanumeric c || c == '_'
  else isAlphabetic c || inRanges c.toNat Table.mark
    || inRanges c.toNat Table.decimal || inRanges c.toNat Table.connector

/-- A letter or a numeral of any kind, fractions and the like included. -/
def isAlphanumeric (c : Char) : Bool :=
  if c.toNat < 128 then isAsciiAlphanumeric c
  else isAlphabetic c || inRanges c.toNat Table.decimal
    || inRanges c.toNat Table.numeral

/-- The longest run of word characters at the start of `t`, and the rest. -/
def spanWord (t : Text) : Text × Text := t.span isWordChar

end Pseudocode.Text
