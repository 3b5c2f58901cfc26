import Pseudocode.Text.Ascii
import Pseudocode.Text.Ranges
import Pseudocode.Text.Table.CaseIgnorable
import Pseudocode.Text.Table.Cased
import Pseudocode.Text.Table.Fold
import Pseudocode.Text.Table.Lower

/-!
# Letter case beyond ASCII

Case-insensitive matching identifies characters with the same simple case folding: the long s with
`s`, the Kelvin sign with `k`, both small sigmas with each other. Lower-casing a text maps each
character, except that a capital sigma at the end of a word becomes a final sigma and the dotted
capital I becomes two characters.
-/

namespace Pseudocode.Text

/-- The simple case folding of a character. -/
def fold (c : Char) : Char := if c.toNat < 128 then asciiLower c else shiftBy Table.fold c

/-- All characters with the same simple case folding as `c`, itself among them. -/
def sameCase (c : Char) : List Char :=
  if c.toNat < 128 then
    let low := asciiLower c
    if 'a' ≤ low ∧ low ≤ 'z' then
      low :: Char.ofNat (low.toNat - 32) ::
        (if low = 'k' then ['\u212a'] else if low = 's' then ['\u017f'] else [])
    else [c]
  else fold c :: shiftedTo Table.fold (fold c)

/-- A character with an upper, lower or title case form. -/
def isCased (c : Char) : Bool := inRanges c.toNat Table.cased

/-- A character that does not end a word for the choice of the final sigma. -/
def isCaseIgnorable (c : Char) : Bool := inRanges c.toNat Table.caseIgnorable

/-- Whether the first character of `t` that casing does not look through is cased. -/
def reachesCased (t : Text) : Bool :=
  match t.dropWhile isCaseIgnorable with
  | [] => false
  | c :: _ => isCased c

/-- The lower case of the text `t` that follows the reversed text `seen`. -/
def lowerAfter : (seen t : Text) → Text
  | _, [] => []
  | seen, c :: rest =>
    let low :=
      if c.toNat < 128 then [asciiLower c]
      else if c = '\u0130' then ['i', '\u0307']
      else if c = '\u03a3' then
        [if reachesCased seen && !reachesCased rest then '\u03c2' else '\u03c3']
      else [shiftBy Table.lower c]
    low ++ lowerAfter (c :: seen) rest

/-- The lower case of a text. -/
def lower (t : Text) : Text := lowerAfter [] t

end Pseudocode.Text
