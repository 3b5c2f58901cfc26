import Pseudocode.Yaml.Scalar
import Pseudocode.Yaml.Token

/-!
# Scanning YAML

Cuts a YAML text into tokens. Whether a text is a key shows only at the colon after it, so the scan
remembers where a key could have begun and puts the tokens for it there afterwards.
-/

namespace Pseudocode.Yaml

/-- A place where a key may have begun. -/
structure KeyStart where
  /-- The number of tokens before it. -/
  token : Nat
  /-- Whether nothing but a key can stand there. -/
  required : Bool
  index : Nat
  line : Nat
  column : Nat

structure Scanner where
  cursor : Cursor
  /-- The columns of the open block collections, the innermost first. -/
  indents : List Nat
  /-- Whether a key may begin here. -/
  keyAllowed : Bool
  /-- Where a key may have begun in each open flow collection, the innermost first, and outside. -/
  keys : List (Option KeyStart)
  tokens : List Token

namespace Scanner

def start (t : Text) : Scanner := ⟨.start t, [], true, [none], []⟩

def inFlow (s : Scanner) : Bool := s.keys.length > 1

/-- The column from which a line continues the innermost block collection. -/
def innerColumn (s : Scanner) : Nat := (s.indents.head?.map (· + 1)).getD 0

def emit (s : Scanner) (token : Token) : Scanner := { s with tokens := s.tokens ++ [token] }

/-- One more token of `n` characters at the cursor. -/
def take (s : Scanner) (n : Nat) (token : Token) : Scanner :=
  { s.emit token with cursor := s.cursor.forward n }

/-- Forgets where a key may have begun in the innermost collection; a required one must not be
lost. -/
def dropKey? (s : Scanner) : Option Scanner :=
  match s.keys with
  | some k :: keys => if k.required then none else some { s with keys := none :: keys }
  | _ => some s

def markKey? (s : Scanner) : Option Scanner :=
  if s.keyAllowed then do
    let s ← s.dropKey?
    let required := !s.inFlow && s.indents.head? == some s.cursor.column
    let k : KeyStart :=
      ⟨s.tokens.length, required, s.cursor.index, s.cursor.line, s.cursor.column⟩
    return { s with keys := some k :: s.keys.tail }
  else some s

/-- Forgets the keys that would reach over a line end or over more than 1024 characters. -/
def dropStale? (s : Scanner) : Option Scanner := do
  let keys ← s.keys.mapM fun k? =>
    match k? with
    | some k =>
      if k.line < s.cursor.line ∨ k.index + 1024 < s.cursor.index then
        if k.required then none else some none
      else some (some k)
    | none => some none
  return { s with keys }

/-- Ends the block collections whose column is at least `column`, and those alone. -/
def closeBlocks (column : Nat) : List Nat → List Nat × List Token
  | [] => ([], [])
  | indent :: outer =>
    if column < indent + 1 then
      let (left, tokens) := closeBlocks column outer
      (left, .blockEnd :: tokens)
    else (indent :: outer, [])

/-- Ends the block collections that the column of the cursor leaves. -/
def unroll (s : Scanner) (column : Nat) : Scanner :=
  if s.inFlow then s
  else
    let (indents, ends) := closeBlocks column s.indents
    { s with indents, tokens := s.tokens ++ ends }

def unrollAll (s : Scanner) : Scanner := s.unroll 0

/-- Begins a block collection at a column, unless one is open there, with its token put after the
first `position` tokens. -/
def roll (s : Scanner) (column position : Nat) (token : Token) : Scanner :=
  if s.inFlow ∨ s.indents.head?.any (column ≤ ·) then s
  else
    { s with
      indents := column :: s.indents
      tokens := s.tokens.take position ++ token :: s.tokens.drop position }

/-- Skips gaps and comments. Tabs count as gaps where no key may begin. -/
def skipGap : (fuel : Nat) → Scanner → Scanner
  | 0, s => s
  | fuel + 1, s =>
    let blank (c : Char) : Bool := c == ' ' || (c == '\t' && (s.inFlow || !s.keyAllowed))
    let c := s.cursor.upTo (s.cursor.rest.dropWhile blank)
    let c := if c.at? (· == '#') then c.skipLine else c
    if c.at? isBreak then
      skipGap fuel { s with cursor := c.readBreak.2, keyAllowed := s.keyAllowed || !s.inFlow }
    else { s with cursor := c }

/-! ## Directives, names and tags -/

def number? (t : Text) : Option (Nat × Text) :=
  match t.span Text.isAsciiDigit with
  | ([], _) => none
  | (digits, rest) => if digits.length ≤ 9 then some (Text.decimalValue digits, rest) else none

/-- Reads the handle of a tag; that of a directive is closed unless it is a single mark. -/
def tagHandle? (directive : Bool) (t : Text) : Option (Text × Text) :=
  match t with
  | '!' :: rest =>
    match rest.span isNameSign with
    | (name, '!' :: rest) => some ('!' :: name ++ ['!'], rest)
    | (name, rest) => if directive && !name.isEmpty then none else some ('!' :: name, rest)
  | _ => none

def isTagSign (verbatim : Bool) (c : Char) : Bool :=
  isNameSign c || ";/?:@&=+$.!~*'()%".toList.contains c || (verbatim && [',', '[', ']'].contains c)

/-- Reads the rest of a tag, in which two digits follow each percent sign. -/
def tagRest? (verbatim : Bool) (t : Text) : Option (Text × Text) :=
  let (part, rest) := t.span (isTagSign verbatim)
  let rec escaped : Text → Bool
    | [] => true
    | '%' :: a :: b :: more =>
      (Text.hexDigit? a).isSome && (Text.hexDigit? b).isSome && escaped more
    | c :: more => c != '%' && escaped more
  if escaped part then some (part, rest) else none

def directive? (t : Text) : Option (Token × Text) :=
  match t.span isNameSign with
  | (name, rest) =>
    let rest := rest.dropWhile isBlank
    if name = "YAML".toList then do
      let (major, rest) ← number? rest
      match rest with
      | '.' :: rest =>
        let (minor, rest) ← number? rest
        return (.version major minor, rest)
      | _ => none
    else if name = "TAG".toList then do
      let (handle, rest) ← tagHandle? true rest
      if rest.head?.any isBlank then
        let (_, rest) ← tagRest? true (rest.dropWhile isBlank)
        if endsToken rest then return (.tagDirective handle, rest) else none
      else none
    else none

/-- Reads a tag: verbatim in angle brackets, or a handle and a rest. -/
def tag? (inFlow : Bool) (t : Text) : Option (Token × Text) := do
  let (token, rest) ← match t with
    | '!' :: '<' :: rest => do
      let (part, rest) ← tagRest? true rest
      match rest with
      | '>' :: rest => if part.isEmpty then none else some (Token.tag [], rest)
      | _ => none
    | _ => do
      let (handle, rest) ← tagHandle? false t
      let (part, rest) ← tagRest? false rest
      let closed := handle.length > 1 && handle.getLast? == some '!'
      if closed then if part.isEmpty then none else some (Token.tag handle, rest)
      else some (Token.tag ['!'], rest)
  if endsToken rest ∨ (inFlow ∧ rest.head? = some ',') then some (token, rest) else none

def anchorName? (t : Text) : Option (Text × Text) :=
  let (name, rest) := t.span isNameSign
  let ends := endsToken rest || rest.head?.any "?:,]\x7d%@`".toList.contains
  if name.isEmpty || !ends then none else some (name, rest)

/-! ## Tokens -/

/-- A token that ends everything open, such as a directive or the mark of a document. -/
def breakOff? (s : Scanner) : Option Scanner := do
  let s ← s.unrollAll.dropKey?
  return { s with keyAllowed := false }

def openFlow? (s : Scanner) (token : Token) : Option Scanner := do
  let s ← s.markKey?
  return { s with keys := none :: s.keys, keyAllowed := true }.take 1 token

def closeFlow? (s : Scanner) (token : Token) : Option Scanner := do
  let s ← s.dropKey?
  let keys := match s.keys with
    | _ :: k :: keys => k :: keys
    | keys => keys
  return { s with keys, keyAllowed := false }.take 1 token

/-- A hyphen before an item, or a question mark before a key. -/
def indicator? (s : Scanner) (collection token : Token) (keyAfter : Bool) : Option Scanner :=
  if !s.inFlow ∧ !s.keyAllowed then none
  else do
    let s ← (s.roll s.cursor.column s.tokens.length collection).dropKey?
    return { s with keyAllowed := keyAfter }.take 1 token

/-- A colon: what may have been a key is one, or the key is empty. -/
def value? (s : Scanner) : Option Scanner :=
  match s.keys with
  | some k :: keys =>
    let s := { s with tokens := s.tokens.take k.token ++ Token.key :: s.tokens.drop k.token }
    let s := s.roll k.column k.token .blockMappingStart
    some ({ s with keys := none :: keys, keyAllowed := false }.take 1 .value)
  | _ =>
    if s.inFlow then some ({ s with keyAllowed := false }.take 1 .value)
    else if s.keyAllowed then
      some ((s.roll s.cursor.column s.tokens.length .blockMappingStart).take 1 .value)
    else none

/-- A token that may be or begin a key and that `read` takes after the first `n` characters. -/
def inner? (s : Scanner) (n : Nat) (read : Text → Option (Token × Text)) : Option Scanner := do
  let s ← s.markKey?
  let (token, rest) ← read (s.cursor.rest.drop n)
  return { s with keyAllowed := false, cursor := s.cursor.upTo rest }.emit token

def quotedScalar? (s : Scanner) (single : Bool) : Option Scanner := do
  let s ← s.markKey?
  let (text, c) ← quoted? single (s.cursor.rest.length + 1) [] (s.cursor.forward 1)
  return { s with keyAllowed := false, cursor := c }.emit (.scalar text false)

def blockScalar? (s : Scanner) (literal : Bool) : Option Scanner := do
  let s ← s.dropKey?
  let (text, c) ← block? literal s.indents.head? (s.cursor.forward 1)
  return { s with keyAllowed := true, cursor := c }.emit (.scalar text false)

def plainScalar? (s : Scanner) : Option Scanner := do
  let s ← s.markKey?
  let (text, atLineStart, c) ←
    plain? s.inFlow s.innerColumn (s.cursor.rest.length + 1) [] .none s.cursor
  return { s with keyAllowed := atLineStart, cursor := c }.emit (.scalar text true)

/-- Whether a plain scalar may start with `c` before `rest`. -/
def startsPlain (inFlow : Bool) (c : Char) (rest : Text) : Bool :=
  if c == '-' then !rest.head?.any isBlank
  else if c == '?' || c == ':' then !inFlow && !endsToken rest
  else !isGap c && !",[]\x7b\x7d#&*!|>'\"%@`".toList.contains c

/-- The scan after the next token, which starts with `ch`. -/
def token? (s : Scanner) (ch : Char) (rest : Text) : Option Scanner :=
  let s := s.unroll (s.cursor.column + 1)
  if s.cursor.column = 0 ∧ ch = '%' then do
    let s ← s.breakOff?
    let (token, rest) ← directive? rest
    let c := (s.cursor.upTo rest).skipBlanks
    let c := if c.at? (· == '#') then c.skipLine else c
    if c.at? (!isBreak ·) then none
    else return { s with cursor := c.readBreak.2 }.emit token
  else if s.cursor.atDocumentMark then do
    let s ← s.breakOff?
    return s.take 3 (if ch = '-' then .documentStart else .documentEnd)
  else if ch = '[' then s.openFlow? .flowSequenceStart
  else if ch = '\x7b' then s.openFlow? .flowMappingStart
  else if ch = ']' then s.closeFlow? .flowSequenceEnd
  else if ch = '\x7d' then s.closeFlow? .flowMappingEnd
  else if ch = ',' then do
    let s ← s.dropKey?
    return { s with keyAllowed := true }.take 1 .flowEntry
  else if ch = '-' ∧ endsToken rest then s.indicator? .blockSequenceStart .blockEntry true
  else if ch = '?' ∧ (s.inFlow ∨ endsToken rest) then
    s.indicator? .blockMappingStart .key !s.inFlow
  else if ch = ':' ∧ (s.inFlow ∨ endsToken rest) then s.value?
  else if ch = '*' then
    s.inner? 1 fun t => (anchorName? t).map fun (name, rest) => (.alias name, rest)
  else if ch = '&' then
    s.inner? 1 fun t => (anchorName? t).map fun (name, rest) => (.anchor name, rest)
  else if ch = '!' then s.inner? 0 (tag? s.inFlow)
  else if ch = '|' ∧ !s.inFlow then s.blockScalar? true
  else if ch = '>' ∧ !s.inFlow then s.blockScalar? false
  else if ch = '\'' then s.quotedScalar? true
  else if ch = '"' then s.quotedScalar? false
  else if startsPlain s.inFlow ch rest then s.plainScalar?
  else none

/-- The tokens up to the end of the text. -/
def run? : (fuel : Nat) → Scanner → Option (List Token)
  | 0, _ => none
  | fuel + 1, s => do
    let s ← (s.skipGap (s.cursor.rest.length + 1)).dropStale?
    match s.cursor.rest with
    | [] =>
      let s ← s.unrollAll.dropKey?
      return s.tokens
    | ch :: rest => run? fuel (← s.token? ch rest)

end Scanner

/-- The tokens of a YAML text. A byte order mark at its start takes up a column. -/
def Token.ofText? (t : Text) : Option (List Token) :=
  if t.all isPrintable then
    let s := Scanner.start t
    let s := if t.head? = some '\ufeff' then { s with cursor := s.cursor.forward 1 } else s
    Scanner.run? (t.length + 1) s
  else none

end Pseudocode.Yaml
