import Pseudocode.Text.Utf8

/-!
# Words of shell scripts

Shell scripts stand for compilers and launchers. A script is a text of bytes, each of them a
character below 256, so that it can be read like any text, and is cut into words and operators; a
word keeps its quoted characters apart from the others, and its expansions unread until the word is
needed. Names and arguments of the host are encoded on their way in.
-/

namespace Pseudocode.Shell

def ofBytes (bytes : List UInt8) : Text := bytes.map fun b => Char.ofNat b.toNat

def toBytes (t : Text) : List UInt8 := t.map fun c => UInt8.ofNat c.toNat

/-- The bytes that encode a text of the host, as characters. -/
def ofHostText (t : Text) : Text := ofBytes (Text.encode t)

/-- The text of the host that bytes encode, given as characters. -/
def toHostText (t : Text) : Text := Text.decodeLossy (toBytes t)

inductive Part where
  | char (c : Char) (quoted : Bool)
  /-- An empty pair of quotes, which makes a field even of nothing. -/
  | quotes
  /-- A parameter, with the text that follows its name in braces. -/
  | parameter (name modifier : Text) (quoted : Bool)
  /-- The length of a parameter. -/
  | length (name : Text) (quoted : Bool)
  /-- The output of a script. -/
  | output (script : Text) (quoted : Bool)
  /-- The value of an arithmetic expression. -/
  | arithmetic (expression : Text) (quoted : Bool)
deriving DecidableEq

/-- A word. -/
abbrev Word := List Part

inductive Token where
  /-- A word and the number of its line. -/
  | word (w : Word) (line : Nat)
  | operator (sign : Text)
  /-- A digit right before a redirection. -/
  | channel (n : Nat)
  /-- A redirection from the lines that follow, which hold the given text. -/
  | document (text : Word)
  | newLine
  /-- The text cannot be read from here. -/
  | broken
deriving DecidableEq

def isNameStart (c : Char) : Bool :=
  ('a' ≤ c && c ≤ 'z') || ('A' ≤ c && c ≤ 'Z') || c == '_'

def isNameChar (c : Char) : Bool := isNameStart c || Text.isAsciiDigit c

/-- A parameter whose name is one sign. -/
def isSpecial (c : Char) : Bool := "@*#?-$!".toList.contains c

/-- Reads up to the parenthesis or brace that closes one just opened, past quotes and inner pairs. -/
def closing? (start stop : Char) : (fuel depth : Nat) → (quote : Option Char) → Text →
    Option (Text × Text)
  | 0, _, _, _ => none
  | fuel + 1, depth, quote, t =>
    let go (c : Char) (depth : Nat) (quote : Option Char) (rest : Text) : Option (Text × Text) :=
      (closing? start stop fuel depth quote rest).map fun (inner, rest) => (c :: inner, rest)
    match t with
    | [] => none
    | '\\' :: c :: rest =>
      if quote = some '\'' then go '\\' depth quote (c :: rest)
      else (closing? start stop fuel depth quote rest).map fun (inner, rest) =>
        ('\\' :: c :: inner, rest)
    | c :: rest =>
      match quote with
      | some q => go c depth (if c = q then none else quote) rest
      | none =>
        if c = '\'' ∨ c = '"' then go c depth (some c) rest
        else if c = start then go c (depth + 1) none rest
        else if c = stop then if depth = 0 then some ([], rest) else go c (depth - 1) none rest
        else go c depth none rest

/-- Reads up to the back quote that closes one just opened. -/
def backQuoted? : Text → Option (Text × Text)
  | [] => none
  | '`' :: rest => some ([], rest)
  | '\\' :: c :: rest =>
    (backQuoted? rest).map fun (inner, rest) =>
      (if ['`', '\\', '$'].contains c then c :: inner else '\\' :: c :: inner, rest)
  | c :: rest => (backQuoted? rest).map fun (inner, rest) => (c :: inner, rest)

/-- The parameter that a text in braces names. -/
def braced (inner : Text) (quoted : Bool) : Part :=
  let split (t : Text) : Text × Text :=
    match t with
    | c :: rest =>
      if isNameStart c then t.span isNameChar
      else if Text.isAsciiDigit c then t.span Text.isAsciiDigit
      else ([c], rest)
    | [] => ([], [])
  match inner with
  | '#' :: c :: rest =>
    if isNameChar c ∨ isSpecial c then
      let (name, modifier) := split (c :: rest)
      if modifier.isEmpty then .length name quoted else .parameter ['#'] (c :: rest) quoted
    else .parameter ['#'] (c :: rest) quoted
  | _ =>
    let (name, modifier) := split inner
    .parameter name modifier quoted

/-- Reads an expansion after its dollar sign. A dollar sign that starts none stands for itself. -/
def expansion? (quoted : Bool) (t : Text) : Option (Part × Text) :=
  match t with
  | '(' :: '(' :: rest =>
    match closing? '(' ')' (rest.length + 1) 1 none rest with
    | some (inner, rest) =>
      if inner.getLast? = some ')' then some (.arithmetic inner.dropLast quoted, rest)
      else some (.output ('(' :: inner) quoted, rest)
    | none => none
  | '(' :: rest =>
    (closing? '(' ')' (rest.length + 1) 0 none rest).map fun (inner, rest) =>
      (.output inner quoted, rest)
  | '\x7b' :: rest =>
    (closing? '\x7b' '\x7d' (rest.length + 1) 0 none rest).map fun (inner, rest) =>
      (braced inner quoted, rest)
  | c :: rest =>
    if isNameStart c then
      let (name, rest) := t.span isNameChar
      some (.parameter name [] quoted, rest)
    else if Text.isAsciiDigit c ∨ isSpecial c then some (.parameter [c] [] quoted, rest)
    else some (.char '$' quoted, t)
  | [] => some (.char '$' quoted, [])

/-- Reads the inside of double quotes, up to the quotation mark if `marked`, else to the end. -/
def doubleQuoted? (marked : Bool) : (fuel : Nat) → Text → Option (Word × Text)
  | 0, _ => none
  | fuel + 1, t =>
    let go (part : Part) (rest : Text) : Option (Word × Text) :=
      (doubleQuoted? marked fuel rest).map fun (parts, rest) => (part :: parts, rest)
    match t with
    | [] => if marked then none else some ([], [])
    | '"' :: rest => if marked then some ([], rest) else go (.char '"' true) rest
    | '\\' :: '\n' :: rest => doubleQuoted? marked fuel rest
    | '\\' :: c :: rest =>
      if ['$', '`', '\\'].contains c ∨ (marked ∧ c = '"') then go (.char c true) rest
      else go (.char '\\' true) (c :: rest)
    | '$' :: rest => do
      let (part, rest) ← expansion? true rest
      go part rest
    | '`' :: rest => do
      let (inner, rest) ← backQuoted? rest
      go (.output inner true) rest
    | c :: rest => go (.char c true) rest

/-- A character that ends a word. -/
def endsWord (c : Char) : Bool := " \t\n;&|<>()".toList.contains c

/-- Reads a word up to the end of the text or a character that ends it. -/
def word? (ends : Char → Bool) : (fuel : Nat) → Text → Option (Word × Text)
  | 0, _ => none
  | fuel + 1, t =>
    let go (parts : Word) (rest : Text) : Option (Word × Text) :=
      (word? ends fuel rest).map fun (more, rest) => (parts ++ more, rest)
    match t with
    | [] => some ([], [])
    | '\\' :: '\n' :: rest => word? ends fuel rest
    | '\\' :: c :: rest => go [.char c true] rest
    | '\'' :: rest =>
      match rest.span (· != '\'') with
      | ([], _ :: rest) => go [.quotes] rest
      | (inner, _ :: rest) => go (inner.map (.char · true)) rest
      | (_, []) => none
    | '"' :: rest => do
      let (inner, rest) ← doubleQuoted? true (rest.length + 1) rest
      go (if inner.isEmpty then [.quotes] else inner) rest
    | '$' :: rest => do
      let (part, rest) ← expansion? false rest
      go [part] rest
    | '`' :: rest => do
      let (inner, rest) ← backQuoted? rest
      go [.output inner false] rest
    | c :: rest => if ends c then some ([], t) else go [.char c false] rest

/-- The characters of a word that holds no expansion and nothing quoted. -/
def plainText? (w : Word) : Option Text :=
  w.mapM fun | .char c false => some c | _ => none

/-- The operators, each before those that it starts with. -/
def operators : List Text :=
  ["&&", "||", ";;", "<<-", "<<", "<&", "<>", ">>", ">&", ">|", ";", "&", "|", "(", ")", "<",
    ">"].map String.toList

def operator? (t : Text) : Option (Text × Text) :=
  operators.findSome? fun sign => (Text.dropStart? sign t).map (sign, ·)

/-- The lines before the one that ends a document, without tabs at their starts if `tabs`, and the
text after it. -/
def documentLines (stop : Text) (tabs : Bool) : (fuel : Nat) → Text → Text × Text
  | 0, t => ([], t)
  | fuel + 1, t =>
    if t.isEmpty then ([], [])
    else
      let (line, rest) := t.span (· != '\n')
      let line := if tabs then line.dropWhile (· == '\t') else line
      let rest := rest.drop 1
      if line = stop then ([], rest)
      else
        let (lines, rest) := documentLines stop tabs fuel rest
        (line ++ '\n' :: lines, rest)

/-- A document that has been announced: whether tabs are dropped, and the word that ends it. -/
structure Announced where
  tabs : Bool
  stop : Word

/-- The text of a word without its quotes. -/
def unquoted (w : Word) : Text := w.filterMap fun | .char c _ => some c | _ => none

/-- Reads announced documents, the last announced first. A quoted end means that nothing is
expanded. -/
def documents : List Announced → Text → List Token × Text
  | [], t => ([], t)
  | a :: more, t =>
    let (tokens, t) := documents more t
    let (body, rest) := documentLines (unquoted a.stop) a.tabs (t.length + 1) t
    let isQuoted := a.stop.any fun | .char _ quoted => quoted | _ => true
    let token : Token :=
      if isQuoted then .document (body.map (Part.char · true))
      else match doubleQuoted? false (body.length + 1) body with
        | some (w, _) => .document w
        | none => .broken
    (token :: tokens, rest)

/-- Takes the first document out of tokens. -/
def claimDocument : List Token → Word × List Token
  | [] => ([], [])
  | .document w :: rest => (w, rest)
  | token :: rest =>
    let (w, rest) := claimDocument rest
    (w, token :: rest)

/-- The number of lines that end between two points of a text. -/
def linesBetween (t rest : Text) : Nat := (t.take (t.length - rest.length)).count '\n'

/-- Cuts a text into tokens, from the line with the given number. `announced` are the documents that
start on the next line, the last one first. -/
def tokensFrom : (fuel line : Nat) → (announced : List Announced) → Text → List Token
  | 0, _, _, _ => [.broken]
  | fuel + 1, line, announced, t =>
    let word (t : Text) : List Token :=
      match word? endsWord (t.length + 1) t with
      | none => [.broken]
      | some (w, rest) => .word w line :: tokensFrom fuel (line + linesBetween t rest) announced rest
    match t.dropWhile (fun c => c == ' ' || c == '\t') with
    | [] => announced.map fun _ => .document []
    | '\\' :: '\n' :: rest => tokensFrom fuel (line + 1) announced rest
    | '#' :: rest => tokensFrom fuel line announced (rest.dropWhile (· != '\n'))
    | '\n' :: rest =>
      let (bodies, after) := documents announced rest
      bodies ++ .newLine :: tokensFrom fuel (line + 1 + linesBetween rest after) [] after
    | t =>
      match operator? t with
      | some (sign, rest) =>
        if sign = ['<', '<'] ∨ sign = ['<', '<', '-'] then
          match word? endsWord (rest.length + 1) (rest.dropWhile (· == ' ')) with
          | none => [.broken]
          | some (w, rest) =>
            let (text, more) :=
              claimDocument (tokensFrom fuel line (⟨sign.length == 3, w⟩ :: announced) rest)
            .document text :: more
        else .operator sign :: tokensFrom fuel line announced rest
      | none =>
        match t with
        | d :: r :: _ =>
          if Text.isAsciiDigit d ∧ (r = '<' ∨ r = '>') then
            .channel (d.toNat - '0'.toNat) :: tokensFrom fuel line announced (t.drop 1)
          else word t
        | _ => word t

/-- The tokens of a script. -/
def tokens (script : Text) : List Token := tokensFrom (2 * script.length + 1) 1 [] script

end Pseudocode.Shell
