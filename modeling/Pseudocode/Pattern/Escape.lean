import Pseudocode.Pattern.Property

/-!
# Escapes

What a backslash and the signs after it stand for: a character, a class or a condition. Letters
without a meaning and digits are refused.
-/

namespace Pseudocode.Pattern

/-- What an escape stands for. -/
inductive Escape where
  | char (c : Char)
  | set (s : CharSet)
  | anchor (a : Anchor)

namespace Escape

def hexDigits? : (count acc : Nat) → Text → Option (Nat × Text)
  | 0, acc, t => some (acc, t)
  | _ + 1, _, [] => none
  | count + 1, acc, c :: rest =>
    match Text.hexDigit? c with
    | none => none
    | some d => hexDigits? count (16 * acc + d) rest

def hexBraces? (acc : Nat) (any : Bool) : Text → Option (Nat × Text)
  | [] => none
  | '}' :: rest => if any then some (acc, rest) else none
  | c :: rest =>
    match Text.hexDigit? c with
    | none => none
    | some d => hexBraces? (16 * acc + d) true rest

/-- Reads the code of a character: `count` digits, or any number of them in braces. -/
def hexChar? (count : Nat) (t : Text) : Option (Escape × Text) := do
  let (n, rest) ← match t with
    | '{' :: rest => hexBraces? 0 false rest
    | _ => hexDigits? count 0 t
  let c ← Text.char? n
  return (.char c, rest)

/-- A sign that may stand in the name of a word edge. -/
def isEdgeSign (c : Char) : Bool := ('A' ≤ c && c ≤ 'Z') || ('a' ≤ c && c ≤ 'z') || c == '-'

/-- Reads what follows `\b`: the name of a word edge in braces, unless the braces hold a count. -/
def wordEdge? (t : Text) : Option (WordEdge × Text) :=
  match t with
  | '{' :: rest =>
    match rest.span isEdgeSign with
    | ([], []) => none
    | ([], _) => some (.boundary, t)
    | (name, '}' :: rest) =>
      match String.ofList name with
      | "start" => some (.start, rest)
      | "end" => some (.finish, rest)
      | "start-half" => some (.startHalf, rest)
      | "end-half" => some (.finishHalf, rest)
      | _ => none
    | _ => none
  | _ => some (.boundary, t)

/-- A sign that stands for itself after a backslash: any ASCII character but letters, digits and
angle brackets. -/
def isPlain (c : Char) : Bool :=
  c.toNat < 128 && !Text.isAsciiAlphanumeric c && c != '<' && c != '>'

def read? (flags : Flags) : Text → Option (Escape × Text)
  | [] => none
  | c :: rest =>
    let set (s : CharSet) : Option (Escape × Text) := some (.set s, rest)
    let complement (s : CharSet) : Option (Escape × Text) :=
      (flags.compl? s).map fun s => (.set s, rest)
    match c with
    | 'd' => set flags.digit
    | 's' => set flags.white
    | 'w' => set flags.word
    | 'D' => complement flags.digit
    | 'S' => complement flags.white
    | 'W' => complement flags.word
    | 'p' => (Property.read? flags rest).map fun (s, rest) => (.set s, rest)
    | 'P' => (Property.read? flags rest).map fun (s, rest) => (.set (.compl s), rest)
    | 'x' => hexChar? 2 rest
    | 'u' => hexChar? 4 rest
    | 'U' => hexChar? 8 rest
    | 'a' => some (.char '\x07', rest)
    | 'f' => some (.char '\x0c', rest)
    | 't' => some (.char '\t', rest)
    | 'n' => some (.char '\n', rest)
    | 'r' => some (.char '\r', rest)
    | 'v' => some (.char '\x0b', rest)
    | 'A' => some (.anchor .textStart, rest)
    | 'z' => some (.anchor .textEnd, rest)
    | 'b' => (wordEdge? rest).map fun (edge, rest) => (.anchor (.word flags.word edge), rest)
    | 'B' => some (.anchor (.word flags.word .interior), rest)
    | '<' => some (.anchor (.word flags.word .start), rest)
    | '>' => some (.anchor (.word flags.word .finish), rest)
    | _ => if isPlain c then some (.char c, rest) else none

end Escape
end Pseudocode.Pattern
