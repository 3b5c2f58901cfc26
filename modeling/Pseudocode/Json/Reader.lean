import Pseudocode.Text.Ascii

/-!
# Reading JSON

Readers for the parts of a JSON document, each of which takes what it reads off the start of the
text. Nothing is read leniently: no comments, no trailing commas, no control characters in strings.
-/

namespace Pseudocode.Json

/-- A character that may stand between tokens. -/
def isGap (c : Char) : Bool := c == ' ' || c == '\n' || c == '\t' || c == '\r'

def skipGap (t : Text) : Text := t.dropWhile isGap

/-- The rest of the text after a gap, the sign `c` and another gap. -/
def sign? (c : Char) (t : Text) : Option Text :=
  match skipGap t with
  | [] => none
  | d :: rest => if d = c then some (skipGap rest) else none

def unit? : Text → Option (Nat × Text)
  | a :: b :: c :: d :: rest => do
    let a ← Text.hexDigit? a
    let b ← Text.hexDigit? b
    let c ← Text.hexDigit? c
    let d ← Text.hexDigit? d
    return (((a * 16 + b) * 16 + c) * 16 + d, rest)
  | _ => none

/-- The character that a letter after a backslash stands for. -/
def shortEscape? (c : Char) : Option Char :=
  match c with
  | '"' => some '"'
  | '\\' => some '\\'
  | '/' => some '/'
  | 'b' => some '\x08'
  | 'f' => some '\x0c'
  | 'n' => some '\n'
  | 'r' => some '\r'
  | 't' => some '\t'
  | _ => none

/-- The code point of two surrogates. -/
def pair (high low : Nat) : Nat := 0x10000 + (high - 0xd800) * 0x400 + (low - 0xdc00)

/-- Reads an escape after its backslash: a code point, which may be half of a character. -/
def escape? (t : Text) : Option (Nat × Text) :=
  match t with
  | [] => none
  | 'u' :: rest => do
    let (high, rest) ← unit? rest
    if 0xd800 ≤ high ∧ high < 0xdc00 then
      match rest with
      | '\\' :: 'u' :: more =>
        match unit? more with
        | some (low, more) =>
          if 0xdc00 ≤ low ∧ low < 0xe000 then return (pair high low, more) else return (high, rest)
        | none => return (high, rest)
      | _ => return (high, rest)
    else return (high, rest)
  | c :: rest => (shortEscape? c).map fun c => (c.toNat, rest)

/-- Reads the rest of a string after its opening quote as code points. -/
def codes? : (fuel : Nat) → Text → Option (List Nat × Text)
  | 0, _ => none
  | fuel + 1, t =>
    match t with
    | [] => none
    | '"' :: rest => some ([], rest)
    | '\\' :: rest => do
      let (n, rest) ← escape? rest
      let (codes, rest) ← codes? fuel rest
      return (n :: codes, rest)
    | c :: rest =>
      if c.toNat < 32 then none
      else do
        let (codes, rest) ← codes? fuel rest
        return (c.toNat :: codes, rest)

/-- Reads a string whose every escape stands for a character. -/
def string? (t : Text) : Option (Text × Text) :=
  match skipGap t with
  | '"' :: rest => do
    let (codes, rest) ← codes? (rest.length + 1) rest
    let text ← codes.mapM Text.char?
    return (text, rest)
  | _ => none

def skipDigits? (t : Text) : Option Text :=
  match t.span Text.isAsciiDigit with
  | ([], _) => none
  | (_, rest) => some rest

/-- Reads past a number, of which no digit but a single zero starts with zero. -/
def skipNumber? (t : Text) : Option Text := do
  let t := match t with
    | '-' :: rest => rest
    | t => t
  let t ← match t with
    | '0' :: rest => some rest
    | t => skipDigits? t
  let t ← match t with
    | '.' :: rest => skipDigits? rest
    | t => some t
  match t with
  | c :: rest =>
    if c = 'e' ∨ c = 'E' then
      match rest with
      | '+' :: rest => skipDigits? rest
      | '-' :: rest => skipDigits? rest
      | rest => skipDigits? rest
    else if Text.isAsciiDigit c then none
    else some t
  | [] => some t

/-- Reads past a value that is no array and no object; an escape may stand for half a character. -/
def skipScalar? (t : Text) : Option Text :=
  match t with
  | '"' :: rest => (codes? (rest.length + 1) rest).map (·.2)
  | _ =>
    (Text.dropStart? "null".toList t).or <| (Text.dropStart? "true".toList t).or <|
      (Text.dropStart? "false".toList t).or (skipNumber? t)

/-- What may come next while a value is read past. -/
inductive Next where
  | value
  | key
  | afterValue

/-- A collection that is open while a value is read past. -/
inductive Nesting where
  | inArray
  | inObject

/-- Reads past values and signs until the outermost value ends. -/
def skipFrom : (fuel : Nat) → Next → List Nesting → Text → Option Text
  | 0, _, _, _ => none
  | fuel + 1, next, nesting, t =>
    match next with
    | .key => do
      let rest ← skipScalarString? (skipGap t)
      let rest ← sign? ':' rest
      skipFrom fuel .value nesting rest
    | .value =>
      match skipGap t with
      | '[' :: rest =>
        match sign? ']' rest with
        | some rest => skipFrom fuel .afterValue nesting rest
        | none => skipFrom fuel .value (.inArray :: nesting) rest
      | '\x7b' :: rest =>
        match sign? '\x7d' rest with
        | some rest => skipFrom fuel .afterValue nesting rest
        | none => skipFrom fuel .key (.inObject :: nesting) rest
      | t => do
        let rest ← skipScalar? t
        skipFrom fuel .afterValue nesting rest
    | .afterValue =>
      match nesting with
      | [] => some t
      | .inArray :: outer =>
        match sign? ',' t with
        | some rest => skipFrom fuel .value nesting rest
        | none => (sign? ']' t).bind (skipFrom fuel .afterValue outer)
      | .inObject :: outer =>
        match sign? ',' t with
        | some rest => skipFrom fuel .key nesting rest
        | none => (sign? '\x7d' t).bind (skipFrom fuel .afterValue outer)
where
  /-- Reads past a string. -/
  skipScalarString? (t : Text) : Option Text :=
    match t with
    | '"' :: _ => skipScalar? t
    | _ => none

def skipValue? (t : Text) : Option Text := skipFrom (2 * t.length + 2) .value [] t

/-- Reads items with commas between them up to the sign `close`, after the sign that opens them. -/
def items? {α : Type} (close : Char) (item : Text → Option (α × Text)) :
    (fuel : Nat) → Text → Option (List α × Text)
  | 0, _ => none
  | fuel + 1, t => do
    let (first, rest) ← item t
    match sign? ',' rest with
    | some rest =>
      let (more, rest) ← items? close item fuel rest
      return (first :: more, rest)
    | none => (sign? close rest).map fun rest => ([first], rest)

/-- Reads a collection between the signs `start` and `close`. -/
def collection? {α : Type} (start close : Char) (item : Text → Option (α × Text)) (t : Text) :
    Option (List α × Text) := do
  let rest ← sign? start t
  match sign? close rest with
  | some rest => return ([], rest)
  | none => items? close item (rest.length + 1) rest

def strings? : Text → Option (List Text × Text) := collection? '[' ']' string?

end Pseudocode.Json
