import Pseudocode.Toml.Float
import Pseudocode.Toml.Table

/-!
# TOML scalars

How strings, numbers and dates are written. Each reader takes what it reads off the start of the
text.
-/

namespace Pseudocode.Toml

def isBlank (c : Char) : Bool := c == ' ' || c == '\t'

def skipBlanks (t : Text) : Text := t.dropWhile isBlank

/-- A character that may stand in a line: a tab, or no control character. -/
def isLineChar (c : Char) : Bool := c == '\t' || (0x20 ≤ c.toNat && c.toNat != 0x7f)

def newLine? : Text → Option Text
  | '\n' :: rest => some rest
  | '\r' :: '\n' :: rest => some rest
  | _ => none

/-- The text after a comment, if one starts here; the line end stays. -/
def skipComment (t : Text) : Text :=
  match t with
  | '#' :: rest => rest.dropWhile isLineChar
  | t => t

/-! ## Strings -/

/-- Reads a character whose code has `count` hexadecimal digits. -/
def code? : (count acc : Nat) → Text → Option (Char × Text)
  | 0, acc, t => (Text.char? acc).map (·, t)
  | _ + 1, _, [] => none
  | count + 1, acc, c :: rest =>
    match Text.hexDigit? c with
    | none => none
    | some d => code? count (16 * acc + d) rest

def escape? (t : Text) : Option (Char × Text) :=
  match t with
  | 'b' :: rest => some ('\x08', rest)
  | 't' :: rest => some ('\t', rest)
  | 'n' :: rest => some ('\n', rest)
  | 'f' :: rest => some ('\x0c', rest)
  | 'r' :: rest => some ('\r', rest)
  | '"' :: rest => some ('"', rest)
  | '\\' :: rest => some ('\\', rest)
  | 'u' :: rest => code? 4 0 rest
  | 'U' :: rest => code? 8 0 rest
  | _ => none

/-- Reads the rest of a basic string, which ends at a quotation mark in the same line. -/
def basic? : (fuel : Nat) → Text → Option (Text × Text)
  | 0, _ => none
  | fuel + 1, t =>
    match t with
    | [] => none
    | '"' :: rest => some ([], rest)
    | '\\' :: rest => do
      let (c, rest) ← escape? rest
      let (text, rest) ← basic? fuel rest
      return (c :: text, rest)
    | c :: rest =>
      if isLineChar c then (basic? fuel rest).map fun (text, rest) => (c :: text, rest) else none

/-- Reads the rest of a literal string, which ends at an apostrophe in the same line. -/
def literal? (t : Text) : Option (Text × Text) :=
  match t.span (fun c => isLineChar c && c != '\'') with
  | (text, '\'' :: rest) => some (text, rest)
  | _ => none

def skipGap : (fuel : Nat) → Text → Text
  | 0, t => t
  | fuel + 1, t =>
    let t := skipBlanks t
    match newLine? t with
    | some rest => skipGap fuel rest
    | none => t

/-- Reads past a backslash at the end of a line: blanks, a line end and the gap after it. -/
def continuation? (t : Text) : Option Text :=
  (newLine? (skipBlanks t)).map fun rest => skipGap (rest.length + 1) rest

/-- Reads the rest of a string over several lines that ends at three of `quote`. Up to two more may
stand before these, and escapes count if the quote is a quotation mark. -/
def multiLine? (quote : Char) : (fuel : Nat) → Text → Option (Text × Text)
  | 0, _ => none
  | fuel + 1, t =>
    match t.span (· == quote) with
    | (q :: quotes, rest) =>
      let count := quotes.length + 1
      if count ≥ 6 then none
      else if count ≥ 3 then some (List.replicate (count - 3) q, rest)
      else (multiLine? quote fuel rest).map fun (text, rest) => (q :: quotes ++ text, rest)
    | ([], _) =>
      match newLine? t with
      | some rest => (multiLine? quote fuel rest).map fun (text, rest) => ('\n' :: text, rest)
      | none =>
        match t with
        | [] => none
        | c :: rest =>
          if c = '\\' ∧ quote = '"' then
            match continuation? rest with
            | some rest => multiLine? quote fuel rest
            | none => do
              let (c, rest) ← escape? rest
              let (text, rest) ← multiLine? quote fuel rest
              return (c :: text, rest)
          else if isLineChar c then
            (multiLine? quote fuel rest).map fun (text, rest) => (c :: text, rest)
          else none

/-- Reads the rest of a string over several lines; a line end right after the quotes is dropped. -/
def multiLineBody? (quote : Char) (t : Text) : Option (Text × Text) :=
  multiLine? quote (t.length + 1) ((newLine? t).getD t)

def lineString? (t : Text) : Option (Text × Text) :=
  match t with
  | '"' :: rest => basic? (rest.length + 1) rest
  | '\'' :: rest => literal? rest
  | _ => none

def string? (t : Text) : Option (Text × Text) :=
  match t with
  | '"' :: '"' :: '"' :: rest => multiLineBody? '"' rest
  | '\'' :: '\'' :: '\'' :: rest => multiLineBody? '\'' rest
  | _ => lineString? t

/-! ## Numbers -/

/-- The digits of a number, in which low lines stand between digits only. -/
def digits? (isDigit : Char → Bool) : Text → Option Text
  | [] => none
  | [c] => if isDigit c then some [c] else none
  | c :: '_' :: rest => if isDigit c then (digits? isDigit rest).map (c :: ·) else none
  | c :: rest => if isDigit c then (digits? isDigit rest).map (c :: ·) else none

/-- A sign before a number. -/
def splitSign : Text → Bool × Text
  | '-' :: rest => (true, rest)
  | '+' :: rest => (false, rest)
  | t => (false, t)

/-- Digits without a zero before other digits. -/
def plainDigits? (t : Text) : Option Text := do
  let digits ← digits? Text.isAsciiDigit t
  match digits with
  | '0' :: _ :: _ => none
  | _ => some digits

def inBase (base : Nat) (digits : Text) : Nat :=
  digits.foldl (fun n c => base * n + (Text.hexDigit? c).getD 0) 0

def bounded? (n : Int) : Option Value :=
  if -0x8000000000000000 ≤ n ∧ n < 0x8000000000000000 then some (.integer n) else none

def integer? (word : Text) : Option Value :=
  let based (base : Nat) (rest : Text) : Option Value := do
    let digits ← digits? (fun c => (Text.hexDigit? c).any (· < base)) rest
    bounded? (inBase base digits)
  match word with
  | '0' :: 'x' :: rest => based 16 rest
  | '0' :: 'o' :: rest => based 8 rest
  | '0' :: 'b' :: rest => based 2 rest
  | _ => do
    let (negative, rest) := splitSign word
    let digits ← plainDigits? rest
    let n := Text.decimalValue digits
    bounded? (if negative then -(n : Int) else n)

/-- The exponent that a text starting with its letter writes; an empty text writes zero. -/
def exponent? (t : Text) : Option Int :=
  match t with
  | [] => some 0
  | _ :: t =>
    let (down, t) := splitSign t
    (digits? Text.isAsciiDigit t).map fun digits =>
      let n : Int := Text.decimalValue digits
      if down then -n else n

/-- The number with a fraction or an exponent that a word writes. One that is too great is refused,
but below zero it counts as infinite. -/
def float? (word : Text) : Option Value := do
  let (negative, rest) := splitSign word
  let sign := if negative then ['-'] else []
  if rest = "inf".toList then some (.float (sign ++ "inf".toList))
  else if rest = "nan".toList then some (.float "NaN".toList)
  else
    let (mantissa, exponent) := rest.span (fun c => c != 'e' && c != 'E')
    let exponent ← exponent? exponent
    let (whole, fraction) := mantissa.span (· != '.')
    let whole ← plainDigits? whole
    let fraction ← match fraction with
      | [] => if mantissa.length = rest.length then none else some []
      | _ :: fraction => digits? Text.isAsciiDigit fraction
    match Float.ofDecimal? (Text.decimalValue (whole ++ fraction)) (exponent - fraction.length) with
    | some x => some (.float (sign ++ Float.shown x))
    | none => if negative then some (.float "-inf".toList) else none

/-! ## Dates -/

/-- Reads a number of exactly `count` digits between two bounds. -/
def part? (count low high : Nat) (t : Text) : Option (Text × Text) :=
  let (digits, rest) := (t.take count, t.drop count)
  let n := Text.decimalValue digits
  if digits.length = count ∧ digits.all Text.isAsciiDigit ∧ low ≤ n ∧ n ≤ high then
    some (digits, rest)
  else none

def daysIn (year month : Nat) : Nat :=
  if month = 2 then if year % 4 = 0 ∧ (year % 100 ≠ 0 ∨ year % 400 = 0) then 29 else 28
  else if [4, 6, 9, 11].contains month then 30
  else 31

/-- Reads the sign `c`. -/
def sign? (c : Char) (t : Text) : Option Text := Text.dropStart? [c] t

def day? (t : Text) : Option (Text × Text) := do
  let (year, t) ← part? 4 0 9999 t
  let (month, t) ← part? 2 1 12 (← sign? '-' t)
  let last := daysIn (Text.decimalValue year) (Text.decimalValue month)
  let (day, t) ← part? 2 1 last (← sign? '-' t)
  return (year ++ '-' :: month ++ '-' :: day, t)

def time? (t : Text) : Option (Text × Text) := do
  let (hour, t) ← part? 2 0 23 t
  let (minute, t) ← part? 2 0 59 (← sign? ':' t)
  let (second, t) ← part? 2 0 60 (← sign? ':' t)
  let shown := hour ++ ':' :: minute ++ ':' :: second
  match t with
  | '.' :: rest =>
    match rest.span Text.isAsciiDigit with
    | ([], _) => none
    | (digits, rest) =>
      let digits := Text.dropEndWhile (· == '0') (digits.take 9)
      return (shown ++ (if digits.isEmpty then [] else '.' :: digits), rest)
  | _ => return (shown, t)

/-- Reads the offset from universal time, if one is written. -/
def offset? (t : Text) : Option (Text × Text) :=
  let signed (sign : Char) (t : Text) : Option (Text × Text) := do
    let (hour, t) ← part? 2 0 23 t
    let (minute, t) ← part? 2 0 59 (← sign? ':' t)
    return (sign :: hour ++ ':' :: minute, t)
  match t with
  | 'Z' :: rest => some (['Z'], rest)
  | 'z' :: rest => some (['Z'], rest)
  | '+' :: rest => signed '+' rest
  | '-' :: rest => signed '-' rest
  | _ => some ([], t)

def date? (t : Text) : Option (Value × Text) :=
  match day? t with
  | none => (time? t).map fun (shown, rest) => (.date shown, rest)
  | some (day, rest) =>
    match rest with
    | c :: more =>
      if c = 'T' ∨ c = 't' ∨ (c = ' ' ∧ more.head?.any Text.isAsciiDigit) then do
        let (time, rest) ← time? more
        let (offset, rest) ← offset? rest
        return (.date (day ++ 'T' :: time ++ offset), rest)
      else some (.date day, rest)
    | [] => some (.date day, rest)

/-- A character of a number or a truth value. -/
def isWordChar (c : Char) : Bool :=
  Text.isAsciiAlphanumeric c || c == '_' || c == '+' || c == '-' || c == '.'

def scalar? (t : Text) : Option (Value × Text) :=
  match t with
  | [] => none
  | c :: _ =>
    if c = '"' ∨ c = '\'' then (string? t).map fun (text, rest) => (.string text, rest)
    else match date? t with
      | some result => some result
      | none =>
        let (word, rest) := t.span isWordChar
        if word = "true".toList then some (.boolean true, rest)
        else if word = "false".toList then some (.boolean false, rest)
        else ((integer? word).or (float? word)).map (·, rest)

end Pseudocode.Toml
