import Pseudocode.Text.Basic
import Pseudocode.Text.Ranges

/-!
# White space

The characters with the Unicode property White Space separate words and are trimmed from lines. The
zero-width space, the byte order mark and the information separators are not among them.
-/

namespace Pseudocode.Text

/-- The runs of white-space characters. -/
def whiteSpace : List (Nat × Nat) := [
  (0x9, 0xd), (0x20, 0x20), (0x85, 0x85), (0xa0, 0xa0), (0x1680, 0x1680), (0x2000, 0x200a),
  (0x2028, 0x2029), (0x202f, 0x202f), (0x205f, 0x205f), (0x3000, 0x3000)]

def isWhite (c : Char) : Bool := inRanges c.toNat whiteSpace

def trimStart (t : Text) : Text := t.dropWhile isWhite

def trimEnd (t : Text) : Text := dropEndWhile isWhite t

def trim (t : Text) : Text := trimEnd (trimStart t)

def isBlank (t : Text) : Bool := t.all isWhite

/-- The longest runs of `t` without white space. -/
def words (t : Text) : List Text := (splitAt isWhite t).filter (!·.isEmpty)

/-- A line without the carriage return that may stand before its line feed. -/
def dropReturn : Text → Text
  | [] => []
  | ['\r'] => []
  | c :: rest => c :: dropReturn rest

/-- The lines of a text: each ends at a line feed, before which one carriage return is dropped, and
a rest without line feed is a last line, kept as it is. -/
def lines (t : Text) : List Text :=
  let pieces := splitAt (· == '\n') t
  let last := pieces.getLastD []
  pieces.dropLast.map dropReturn ++ if last.isEmpty then [] else [last]

end Pseudocode.Text
