import Pseudocode.Shell.Session

/-!
# Printing

The two utilities that write their arguments: one puts spaces between them, and the other fills a
format. Both know escapes after a backslash.
-/

namespace Pseudocode.Shell.Printing

def octal (digits : Text) : Char :=
  Char.ofNat (digits.foldl (fun n c => 8 * n + (c.toNat - '0'.toNat)) 0 % 256)

def isOctal (c : Char) : Bool := '0' ≤ c && c ≤ '7'

def octalDigits (n : Nat) (t : Text) : Text × Text :=
  let digits := (t.take n).takeWhile isOctal
  (digits, t.drop digits.length)

/-- The character that a letter stands for after a backslash. -/
def escape? (c : Char) : Option Char :=
  [('a', '\x07'), ('b', '\x08'), ('f', '\x0c'), ('n', '\n'), ('r', '\r'), ('t', '\t'),
    ('v', '\x0b'), ('\\', '\\')].lookup c

/-- An argument with its escapes replaced, and whether all output ends in it. -/
def unescape : (fuel : Nat) → Text → Text × Bool
  | 0, t => (t, false)
  | _ + 1, [] => ([], false)
  | fuel + 1, t =>
    let go (c : Char) (rest : Text) : Text × Bool :=
      let (more, ended) := unescape fuel rest
      (c :: more, ended)
    match t with
    | '\\' :: 'c' :: _ => ([], true)
    | '\\' :: '0' :: rest =>
      let (digits, rest) := octalDigits 3 rest
      go (octal digits) rest
    | '\\' :: c :: rest =>
      match escape? c with
      | some c => go c rest
      | none => go '\\' (c :: rest)
    | c :: rest => go c rest
    | [] => ([], false)

/-- What is written for arguments with spaces between them. -/
def echo (arguments : List Text) : Text :=
  let (ended, arguments) : Text × List Text :=
    match arguments with
    | ['-', 'n'] :: rest => ([], rest)
    | arguments => (['\n'], arguments)
  let t := Text.joinWith [' '] arguments
  match unescape (t.length + 1) t with
  | (t, true) => t
  | (t, false) => t ++ ended

/-- How a value is put into a format. -/
structure Conversion where
  flags : Text
  width : Nat
  precision : Option Nat
  letter : Char
deriving DecidableEq

def conversion? (t : Text) : Option (Conversion × Text) :=
  let (flags, t) := t.span ("-+ #0".toList.contains ·)
  let (width, t) := t.span Text.isAsciiDigit
  let (precision, t) : Option Nat × Text :=
    match t with
    | '.' :: t =>
      let (digits, t) := t.span Text.isAsciiDigit
      (some (Text.decimalValue digits), t)
    | t => (none, t)
  match t with
  | letter :: t => some (⟨flags, Text.decimalValue width, precision, letter⟩, t)
  | [] => none

/-- A text filled up to a width. -/
def Conversion.pad (c : Conversion) (isNumber : Bool) (t : Text) : Text :=
  let missing := c.width - t.length
  if c.flags.contains '-' then t ++ List.replicate missing ' '
  else if c.flags.contains '0' && isNumber && c.precision.isNone then
    match t with
    | '-' :: digits => '-' :: List.replicate missing '0' ++ digits
    | digits => List.replicate missing '0' ++ digits
  else List.replicate missing ' ' ++ t

def digits (base n : Nat) : Text := Nat.toDigits base n

/-- The number that an argument writes, as far as it can be read. -/
def numberOf (t : Text) : Int :=
  match t with
  | ['\''] => 0
  | '\'' :: c :: _ => c.toNat
  | '"' :: c :: _ => c.toNat
  | '-' :: t => -(magnitude t : Int)
  | '+' :: t => magnitude t
  | t => magnitude t
where
  /-- The value of the digits that a text starts with. -/
  magnitude (t : Text) : Nat :=
    match t with
    | '0' :: 'x' :: t =>
      (t.takeWhile fun c => (Text.hexDigit? c).isSome).foldl
        (fun n c => 16 * n + (Text.hexDigit? c).getD 0) 0
    | '0' :: t => (t.takeWhile isOctal).foldl (fun n c => 8 * n + (c.toNat - '0'.toNat)) 0
    | t => Text.decimalValue (t.takeWhile Text.isAsciiDigit)

/-- A number with at least as many digits as the precision asks for, and its sign. -/
def Conversion.number (c : Conversion) (n : Int) (t : Text) : Text :=
  let t := List.replicate ((c.precision.getD 0) - t.length) '0' ++ t
  c.pad true <|
    if n < 0 then '-' :: t
    else if c.flags.contains '+' then '+' :: t
    else if c.flags.contains ' ' then ' ' :: t
    else t

/-- What a conversion writes for an argument, and whether all output ends in it. -/
def Conversion.write (c : Conversion) (argument : Text) : Text × Bool :=
  let n := numberOf argument
  let natural := (n % 0x10000000000000000).toNat
  match c.letter with
  | 's' => (c.pad false (argument.take (c.precision.getD argument.length)), false)
  | 'b' =>
    let (t, ended) := unescape (argument.length + 1) argument
    (c.pad false (t.take (c.precision.getD t.length)), ended)
  | 'c' => (c.pad false (argument.take 1), false)
  | 'd' => (c.number n (digits 10 n.natAbs), false)
  | 'i' => (c.number n (digits 10 n.natAbs), false)
  | 'u' => (c.number 0 (digits 10 natural), false)
  | 'o' => (c.number 0 (digits 8 natural), false)
  | 'x' => (c.number 0 (digits 16 natural), false)
  | 'X' => (c.number 0 ((digits 16 natural).map Char.toUpper), false)
  | _ => ([], false)

/-- Fills a format once: what is written, the arguments that remain, and whether all output ends. -/
def fill : (fuel : Nat) → (format : Text) → (arguments : List Text) → Text × List Text × Bool
  | 0, _, arguments => ([], arguments, true)
  | _ + 1, [], arguments => ([], arguments, false)
  | fuel + 1, format, arguments =>
    let go (t : Text) (format : Text) (arguments : List Text) : Text × List Text × Bool :=
      let (more, arguments, ended) := fill fuel format arguments
      (t ++ more, arguments, ended)
    match format with
    | '%' :: '%' :: rest => go ['%'] rest arguments
    | '%' :: rest =>
      match conversion? rest with
      | none => go ['%'] rest arguments
      | some (c, rest) =>
        match c.write (arguments.headD []) with
        | (t, true) => (t, arguments.tail, true)
        | (t, false) => go t rest arguments.tail
    | '\\' :: c :: rest =>
      if isOctal c then
        let (digits, rest) := octalDigits 3 (c :: rest)
        go [octal digits] rest arguments
      else
        match escape? c with
        | some c => go [c] rest arguments
        | none => go ['\\'] (c :: rest) arguments
    | c :: rest => go [c] rest arguments
    | [] => ([], arguments, false)

/-- Fills a format as often as there are arguments for it, but at least once. -/
def fillAll (format : Text) : (fuel : Nat) → (arguments : List Text) → Text
  | 0, _ => []
  | fuel + 1, arguments =>
    let (t, rest, ended) := fill (format.length + 1) format arguments
    if ended ∨ rest.isEmpty ∨ rest.length = arguments.length then t
    else t ++ fillAll format fuel rest

/-- What is written for a format and its arguments. -/
def printf : (arguments : List Text) → Text
  | [] => []
  | format :: arguments => fillAll format (arguments.length + 1) arguments

end Pseudocode.Shell.Printing
