import Pseudocode.Yaml.Cursor

/-!
# YAML scalars

How plain, quoted and block scalars are read. A single line end within plain and quoted scalars
becomes a space, and further ones stay line feeds.
-/

namespace Pseudocode.Yaml

/-- The blanks and line ends between two parts of a scalar. -/
structure Fold where
  /-- The blanks before any line end. -/
  blanks : Text
  /-- Whether there was a line end. -/
  broken : Bool
  /-- The first line end. -/
  first : Text
  /-- The further line ends. -/
  more : Text

namespace Fold

/-- Nothing between two parts. -/
def none : Fold := ⟨[], false, [], []⟩

/-- What the gap contributes to the scalar. -/
def text (f : Fold) : Text :=
  if !f.broken then f.blanks
  else if f.first.head? = some '\n' then if f.more.isEmpty then [' '] else f.more
  else f.first ++ f.more

/-- Reads blanks and line ends. After a line end a tab before column `indent` is refused. -/
def read? (indent : Nat) : (fuel : Nat) → Fold → Cursor → Option (Fold × Cursor)
  | 0, f, c => some (f, c)
  | fuel + 1, f, c =>
    match c.peek with
    | .none => some (f, c)
    | some b =>
      if isBlank b then
        if f.broken then
          if b = '\t' ∧ c.column < indent then .none else read? indent fuel f (c.forward 1)
        else read? indent fuel { f with blanks := f.blanks ++ [b] } (c.forward 1)
      else if isBreak b then
        let (end_, c) := c.readBreak
        if f.broken then read? indent fuel { f with more := f.more ++ end_ } c
        else read? indent fuel ⟨[], true, end_, []⟩ c
      else some (f, c)

end Fold

/-! ## Plain scalars -/

/-- A sign of flow collections, none of which may follow a colon there. -/
def isFlowSign (c : Char) : Bool := [',', '[', ']', '\x7b', '\x7d'].contains c

/-- Reads the part of a plain scalar up to a gap or a sign that ends it. -/
def plainPart? (inFlow : Bool) : Text → Option (Text × Text)
  | [] => some ([], [])
  | c :: rest =>
    if isGap c then some ([], c :: rest)
    else if c = ':' ∧ inFlow ∧ rest.head?.any (fun d => d == '?' || isFlowSign d) then none
    else if c = ':' ∧ endsToken rest then some ([], c :: rest)
    else if inFlow ∧ isFlowSign c then some ([], c :: rest)
    else (plainPart? inFlow rest).map fun (part, rest) => (c :: part, rest)

/-- Reads a plain scalar that continues on lines from column `indent` on. The result says whether
it ends at the start of a line. -/
def plain? (inFlow : Bool) (indent : Nat) :
    (fuel : Nat) → (acc : Text) → Fold → Cursor → Option (Text × Bool × Cursor)
  | 0, _, _, _ => none
  | fuel + 1, acc, f, c =>
    if c.atDocumentMark || c.at? (· == '#') then some (acc, f.broken, c)
    else do
      let (part, rest) ← plainPart? inFlow c.rest
      let (acc, f) := if part.isEmpty then (acc, f) else (acc ++ f.text ++ part, Fold.none)
      let c := c.upTo rest
      if !c.at? isGap then return (acc, f.broken, c)
      else
        let (f, c) ← f.read? indent (c.rest.length + 1) c
        if !inFlow ∧ c.column < indent then return (acc, f.broken, c)
        else plain? inFlow indent fuel acc f c

/-! ## Quoted scalars -/

/-- What a letter after a backslash stands for. -/
def shortEscape? (c : Char) : Option Char :=
  match c with
  | '0' => some '\x00'
  | 'a' => some '\x07'
  | 'b' => some '\x08'
  | 't' => some '\t'
  | '\t' => some '\t'
  | 'n' => some '\n'
  | 'v' => some '\x0b'
  | 'f' => some '\x0c'
  | 'r' => some '\r'
  | 'e' => some '\x1b'
  | ' ' => some ' '
  | '"' => some '"'
  | '/' => some '/'
  | '\\' => some '\\'
  | 'N' => some '\x85'
  | '_' => some '\xa0'
  | 'L' => some '\u2028'
  | 'P' => some '\u2029'
  | _ => none

/-- The number of digits of a code after a backslash and the given letter. -/
def codeLength? (c : Char) : Option Nat :=
  match c with
  | 'x' => some 2
  | 'u' => some 4
  | 'U' => some 8
  | _ => none

/-- Reads a character whose code has `count` hexadecimal digits. -/
def code? : (count acc : Nat) → Text → Option (Char × Text)
  | 0, acc, t => (Text.char? acc).map (·, t)
  | _ + 1, _, [] => none
  | count + 1, acc, c :: rest =>
    match Text.hexDigit? c with
    | none => none
    | some d => code? count (16 * acc + d) rest

/-- How a part of a quoted scalar ends. -/
inductive PartEnd where
  | quote
  | gap
  | escapedBreak

/-- Reads the part of a single-quoted scalar up to a gap or the closing quote. -/
def singleQuotedPart : Text → Text × PartEnd × Text
  | [] => ([], .gap, [])
  | '\'' :: '\'' :: rest =>
    let (part, stop, rest) := singleQuotedPart rest
    ('\'' :: part, stop, rest)
  | '\'' :: rest => ([], .quote, rest)
  | c :: rest =>
    if isGap c then ([], .gap, c :: rest)
    else
      let (part, stop, rest) := singleQuotedPart rest
      (c :: part, stop, rest)

/-- Reads the part of a double-quoted scalar up to a gap, an escaped line end or the closing
quote. -/
def doubleQuotedPart? : (fuel : Nat) → Text → Option (Text × PartEnd × Text)
  | 0, _ => none
  | fuel + 1, t =>
    match t with
    | [] => some ([], .gap, [])
    | '"' :: rest => some ([], .quote, rest)
    | '\\' :: [] => none
    | '\\' :: c :: rest =>
      if isBreak c then some ([], .escapedBreak, c :: rest)
      else do
        let (c, rest) ← match codeLength? c with
          | some count => code? count 0 rest
          | none => (shortEscape? c).map (·, rest)
        let (part, stop, rest) ← doubleQuotedPart? fuel rest
        return (c :: part, stop, rest)
    | c :: rest =>
      if isGap c then some ([], .gap, c :: rest)
      else do
        let (part, stop, rest) ← doubleQuotedPart? fuel rest
        return (c :: part, stop, rest)

def quoted? (single : Bool) : (fuel : Nat) → (acc : Text) → Cursor → Option (Text × Cursor)
  | 0, _, _ => none
  | fuel + 1, acc, c =>
    if c.atDocumentMark || c.rest.isEmpty then none
    else do
      let (part, stop, rest) ←
        if single then some (singleQuotedPart c.rest)
        else doubleQuotedPart? (c.rest.length + 1) c.rest
      let c := c.upTo rest
      match stop with
      | .quote => return (acc ++ part, c)
      | .gap =>
        let (f, c) ← Fold.none.read? 0 (c.rest.length + 1) c
        quoted? single fuel (acc ++ part ++ f.text) c
      | .escapedBreak =>
        let f : Fold := ⟨[], true, [], []⟩
        let (f, c) ← f.read? 0 (c.rest.length + 1) c.readBreak.2
        quoted? single fuel (acc ++ part ++ f.text) c

/-! ## Block scalars -/

/-- What happens to the line ends at the end of a block scalar. -/
inductive Chomping where
  | strip
  | clip
  | keep
deriving DecidableEq

/-- Reads the signs after the indicator of a block scalar: how it ends and its indentation. -/
def blockHeader? (t : Text) : Option (Chomping × Option Nat × Text) :=
  let chomping? (c : Char) : Option Chomping :=
    if c = '+' then some .keep else if c = '-' then some .strip else none
  let digit? (c : Char) : Option Nat :=
    if Text.isAsciiDigit c then some (c.toNat - '0'.toNat) else none
  match t with
  | c :: rest =>
    match chomping? c with
    | some chomping =>
      match rest with
      | d :: more =>
        match digit? d with
        | some 0 => none
        | some n => some (chomping, some n, more)
        | none => some (chomping, none, rest)
      | [] => some (chomping, none, rest)
    | none =>
      match digit? c with
      | some 0 => none
      | some n =>
        match rest with
        | d :: more =>
          match chomping? d with
          | some chomping => some (chomping, some n, more)
          | none => some (.clip, some n, rest)
        | [] => some (.clip, some n, rest)
      | none => some (.clip, none, t)
  | [] => some (.clip, none, t)

/-- Reads the indentation of the next line of a block scalar, and the line ends before it. The
greatest indentation met is kept where none is known yet. -/
def blockIndent? (indent : Option Nat) :
    (fuel : Nat) → (greatest : Nat) → (breaks : Text) → Cursor → Option (Nat × Text × Cursor)
  | 0, _, _, _ => none
  | fuel + 1, greatest, breaks, c =>
    let spaces := (c.rest.takeWhile (· == ' ')).length
    let spaces := match indent with
      | some n => min spaces (n - c.column)
      | none => spaces
    let c := c.forward spaces
    let greatest := max greatest c.column
    if c.at? (· == '\t') ∧ indent.all (c.column < ·) then none
    else if c.at? isBreak then
      let (end_, c) := c.readBreak
      blockIndent? indent fuel greatest (breaks ++ end_) c
    else some (greatest, breaks, c)

/-- Reads the lines of a block scalar with known indentation. `lineEnd` and `breaks` are the line
end of the line before and those of empty lines after it, and `wasBlank` says whether that line
started with a blank. The result has the line ends that are still pending. -/
def blockLines? (literal : Bool) (indent : Nat) :
    (fuel : Nat) → (acc lineEnd breaks : Text) → (wasBlank : Bool) → Cursor →
      Option (Text × Text × Text × Cursor)
  | 0, _, _, _, _, _ => none
  | fuel + 1, acc, lineEnd, breaks, wasBlank, c =>
    if c.column ≠ indent ∨ c.rest.isEmpty then some (acc, lineEnd, breaks, c)
    else do
      let blank := c.at? isBlank
      let folds := !literal && lineEnd.head? == some '\n' && !wasBlank && !blank
      let joint := if !folds then lineEnd else if breaks.isEmpty then [' '] else []
      let line := c.rest.takeWhile (!isBreak ·)
      let acc := acc ++ joint ++ breaks ++ line
      let (lineEnd, c) := (c.forward line.length).readBreak
      let (_, breaks, c) ← blockIndent? (some indent) (c.rest.length + 1) 0 [] c
      blockLines? literal indent fuel acc lineEnd breaks blank c

/-- Reads a block scalar after its indicator; `outer` is the indentation around it, if any. -/
def block? (literal : Bool) (outer : Option Nat) (c : Cursor) : Option (Text × Cursor) := do
  let (chomping, step, rest) ← blockHeader? c.rest
  let c := (c.upTo rest).skipBlanks
  let c := if c.at? (· == '#') then c.skipLine else c
  if c.at? (!isBreak ·) then none
  else
    let c := c.readBreak.2
    let known := step.map (· + outer.getD 0)
    let (greatest, breaks, c) ← blockIndent? known (c.rest.length + 1) 0 [] c
    let least := match outer with
      | some n => n + 1
      | none => 1
    let indent := known.getD (max greatest least)
    let (acc, lineEnd, breaks, c) ←
      blockLines? literal indent (c.rest.length + 1) [] [] breaks false c
    let tail := match chomping with
      | .strip => []
      | .clip => lineEnd
      | .keep => lineEnd ++ breaks
    return (acc ++ tail, c)

end Pseudocode.Yaml
