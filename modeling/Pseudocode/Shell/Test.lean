import Pseudocode.Shell.Session

/-!
# Tests

The utility that tells by its status whether a condition on texts, numbers or files holds.
-/

namespace Pseudocode.Shell.Test

def integer? (t : Text) : Option Int :=
  let digits? (t : Text) : Option Nat :=
    if !t.isEmpty && t.all Text.isAsciiDigit then some (Text.decimalValue t) else none
  match Text.dropEndWhile (· == ' ') (t.dropWhile (· == ' ')) with
  | '-' :: t => (digits? t).map fun n => -(n : Int)
  | '+' :: t => (digits? t).map Int.ofNat
  | t => (digits? t).map Int.ofNat

def unary? (s : Session) (sign : Text) : Option (Text → Bool) :=
  let isFile (e : Entry) : Bool := match e with | .file .. => true | .utility => true | _ => false
  match String.ofList sign with
  | "-n" => some fun t => !t.isEmpty
  | "-z" => some fun t => t.isEmpty
  | "-e" => some fun t => (s.entryAt? t).isSome
  | "-f" => some fun t => (s.entryAt? t).any isFile
  | "-d" => some fun t => s.entryAt? t == some .directory
  | "-r" => some fun t => (s.entryAt? t).isSome
  | "-w" => some fun t => (s.entryAt? t).isSome
  | "-s" => some fun t =>
    match s.entryAt? t with
    | some (.file bytes _) => !bytes.isEmpty
    | some .directory => true
    | some .utility => true
    | _ => false
  | "-x" => some fun t =>
    match s.entryAt? t with
    | some (.file _ executable) => executable
    | some .directory => true
    | some .utility => true
    | _ => false
  | "-t" => some fun _ => false
  | "-L" => some fun _ => false
  | "-h" => some fun _ => false
  | _ => none

def compare? (sign : Text) : Option (Int → Int → Bool) :=
  match String.ofList sign with
  | "-eq" => some fun a b => a == b
  | "-ne" => some fun a b => a != b
  | "-lt" => some fun a b => a < b
  | "-le" => some fun a b => a ≤ b
  | "-gt" => some fun a b => b < a
  | "-ge" => some fun a b => b ≤ a
  | _ => none

def binary? (sign : Text) : Option (Text → Text → Except Text Bool) :=
  match String.ofList sign with
  | "=" => some fun a b => .ok (a == b)
  | "==" => some fun a b => .ok (a == b)
  | "!=" => some fun a b => .ok (a != b)
  | "<" => some fun a b => .ok (decide (a < b))
  | ">" => some fun a b => .ok (decide (b < a))
  | _ =>
    (compare? sign).map fun compare a b =>
      match integer? a, integer? b with
      | some m, some n => .ok (compare m n)
      | none, _ => .error ("Illegal number: ".toList ++ a)
      | _, none => .error ("Illegal number: ".toList ++ b)

mutual

def any (s : Session) : (fuel : Nat) → List Text → Except Text (Bool × List Text)
  | 0, _ => .error []
  | fuel + 1, ts => do
    match ← all s fuel ts with
    | (a, ['-', 'o'] :: ts) =>
      let (b, ts) ← any s fuel ts
      return (a || b, ts)
    | r => return r

def all (s : Session) : (fuel : Nat) → List Text → Except Text (Bool × List Text)
  | 0, _ => .error []
  | fuel + 1, ts => do
    match ← one s fuel ts with
    | (a, ['-', 'a'] :: ts) =>
      let (b, ts) ← all s fuel ts
      return (a && b, ts)
    | r => return r

def one (s : Session) : (fuel : Nat) → List Text → Except Text (Bool × List Text)
  | 0, _ => .error []
  | fuel + 1, ts =>
    let simple : Except Text (Bool × List Text) :=
      match ts with
      | [] => .ok (false, [])
      | [t] => .ok (!t.isEmpty, [])
      | ['!'] :: ts => do
        let (a, ts) ← one s fuel ts
        return (!a, ts)
      | ['('] :: rest => do
        match ← any s fuel rest with
        | (a, [')'] :: ts) => return (a, ts)
        | _ => .error "closing paren expected".toList
      | sign :: t :: rest =>
        match unary? s sign with
        | some f => .ok (f t, rest)
        | none => .ok (!sign.isEmpty, t :: rest)
    match ts with
    | a :: sign :: b :: rest =>
      match binary? sign with
      | some f => (f a b).map (·, rest)
      | none => simple
    | _ => simple

end

/-- Whether the condition that the arguments write holds. -/
def holds (s : Session) (arguments : List Text) : Except Text Bool := do
  if arguments.isEmpty then return false
  match ← any s (4 * arguments.length + 4) arguments with
  | (a, []) => return a
  | (_, t :: _) => .error (t ++ ": unexpected operator".toList)

/-- Runs the utility under one of its two names. -/
def run (name : Text) (s : Session) (arguments : List Text) : Session :=
  let arguments? : Option (List Text) :=
    if name = ['['] then
      if arguments.getLast? = some [']'] then some arguments.dropLast else none
    else some arguments
  match arguments? with
  | none => (s.complain "[: missing ]".toList).withStatus 2
  | some arguments =>
    match holds s arguments with
    | .ok b => s.withStatus (if b then 0 else 1)
    | .error reason => (s.complain (name ++ ": ".toList ++ reason)).withStatus 2

end Pseudocode.Shell.Test
