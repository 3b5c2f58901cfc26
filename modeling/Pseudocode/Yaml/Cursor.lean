import Pseudocode.Text.Ascii

/-!
# Positions in a YAML text

A cursor is what remains of the text with the line and column where it starts. Columns decide how
collections nest, and lines which keys are simple.
-/

namespace Pseudocode.Yaml

def isBlank (c : Char) : Bool := c == ' ' || c == '\t'

def isBreak (c : Char) : Bool :=
  c == '\n' || c == '\r' || c == '\x85' || c == '\u2028' || c == '\u2029'

def isGap (c : Char) : Bool := isBlank c || isBreak c

/-- Whether a text is empty or starts with a blank or a line end. -/
def endsToken (t : Text) : Bool := !t.head?.any (!isGap ·)

/-- A character that may stand in a text at all. -/
def isPrintable (c : Char) : Bool :=
  let n := c.toNat
  n == 0x9 || n == 0xa || n == 0xd || (0x20 ≤ n && n ≤ 0x7e) || n == 0x85
    || (0xa0 ≤ n && n ≤ 0xfffd) || 0x10000 ≤ n

/-- A letter, digit, hyphen or low line of ASCII. -/
def isNameSign (c : Char) : Bool := Text.isAsciiAlphanumeric c || c == '-' || c == '_'

/-- A position in a text. -/
structure Cursor where
  rest : Text
  index : Nat
  line : Nat
  column : Nat

namespace Cursor

def start (t : Text) : Cursor := ⟨t, 0, 0, 0⟩

/-- The position `n` characters further in the same line. -/
def forward (n : Nat) (c : Cursor) : Cursor :=
  { c with rest := c.rest.drop n, index := c.index + n, column := c.column + n }

/-- The position where only `rest`, which the text ends with, remains of the line. -/
def upTo (rest : Text) (c : Cursor) : Cursor := c.forward (c.rest.length - rest.length)

def peek (c : Cursor) : Option Char := c.rest.head?

/-- Whether the next character satisfies `p`. -/
def at? (p : Char → Bool) (c : Cursor) : Bool := c.rest.head?.any p

def skipBlanks (c : Cursor) : Cursor := c.upTo (c.rest.dropWhile isBlank)

def skipLine (c : Cursor) : Cursor := c.upTo (c.rest.dropWhile (!isBreak ·))

/-- A line end as it counts in a scalar, and the position after it. A carriage return with a line
feed is one line end, and all but the separators of Unicode count as a line feed. -/
def readBreak (c : Cursor) : Text × Cursor :=
  let next (n : Nat) (rest : Text) : Cursor := ⟨rest, c.index + n, c.line + 1, 0⟩
  match c.rest with
  | '\r' :: '\n' :: rest => (['\n'], next 2 rest)
  | b :: rest =>
    if b = '\u2028' ∨ b = '\u2029' then ([b], next 1 rest)
    else if isBreak b then (['\n'], next 1 rest)
    else ([], c)
  | [] => ([], c)

/-- Whether three hyphens or three dots stand at the start of a line, alone or before a gap. -/
def atDocumentMark (c : Cursor) : Bool :=
  c.column == 0 &&
    match c.rest with
    | '-' :: '-' :: '-' :: rest => endsToken rest
    | '.' :: '.' :: '.' :: rest => endsToken rest
    | _ => false

end Cursor
end Pseudocode.Yaml
