import Pseudocode.Shell.Word

/-!
# Arithmetic of shell scripts

Expressions on numbers of 64 bits. Operators bind as in most languages with braces, and a variable
is written without a dollar sign.
-/

namespace Pseudocode.Shell

inductive Expression where
  | number (n : Int)
  | valueOf (name : Text)
  | unary (sign : Text) (operand : Expression)
  | binary (sign : Text) (left right : Expression)
  | conditional (test left right : Expression)
  /-- The variable combined with the value under an operator, or the value alone. -/
  | assign (name : Text) (sign : Option Text) (value : Expression)

namespace Expression

/-- A sign of an expression. -/
inductive Symbol where
  | number (n : Int)
  | name (name : Text)
  | operator (sign : Text)
deriving DecidableEq

/-- The operators, each before those that it starts with. -/
def signs : List Text :=
  ["<<=", ">>=", "<<", ">>", "<=", ">=", "==", "!=", "&&", "||", "+=", "-=", "*=", "/=", "%=", "&=",
    "|=", "^=", "+", "-", "*", "/", "%", "<", ">", "!", "~", "&", "|", "^", "?", ":", "=", "(",
    ")"].map String.toList

def digitsValue (base : Nat) (digits : Text) : Nat :=
  digits.foldl (fun n c => base * n + (Text.hexDigit? c).getD 0) 0

def number? : Text → Option Int
  | '0' :: x :: digits =>
    if x = 'x' ∨ x = 'X' then
      if digits.all (fun c => (Text.hexDigit? c).isSome) then some (digitsValue 16 digits) else none
    else if (x :: digits).all (fun c => '0' ≤ c && c ≤ '7') then some (digitsValue 8 (x :: digits))
    else none
  | digits =>
    if !digits.isEmpty && digits.all Text.isAsciiDigit then some (digitsValue 10 digits) else none

def symbols? : (fuel : Nat) → Text → Option (List Symbol)
  | 0, _ => none
  | fuel + 1, t =>
    match t.dropWhile (fun c => " \t\n".toList.contains c) with
    | [] => some []
    | c :: rest =>
      let t := c :: rest
      if Text.isAsciiDigit c then do
        let (digits, rest) := t.span isNameChar
        let n ← number? digits
        (symbols? fuel rest).map (.number n :: ·)
      else if isNameStart c then
        let (name, rest) := t.span isNameChar
        (symbols? fuel rest).map (.name name :: ·)
      else do
        let (sign, rest) ← signs.findSome? fun sign => (Text.dropStart? sign t).map (sign, ·)
        (symbols? fuel rest).map (.operator sign :: ·)

/-- How tightly an operator between two operands binds. -/
def strength? (sign : Text) : Option Nat :=
  match String.ofList sign with
  | "||" => some 1
  | "&&" => some 2
  | "|" => some 3
  | "^" => some 4
  | "&" => some 5
  | "==" | "!=" => some 6
  | "<" | ">" | "<=" | ">=" => some 7
  | "<<" | ">>" => some 8
  | "+" | "-" => some 9
  | "*" | "/" | "%" => some 10
  | _ => none

/-- The operator before the equality sign of an assignment, if the sign is one. -/
def assigning? (sign : Text) : Option (Option Text) :=
  if sign = ['='] then some none
  else if sign.getLast? = some '=' ∧ (strength? sign).isNone then some (some sign.dropLast)
  else none

mutual

/-- Reads an expression. -/
def any? : (fuel : Nat) → List Symbol → Option (Expression × List Symbol)
  | 0, _ => none
  | fuel + 1, ss =>
    let conditional (_ : Unit) : Option (Expression × List Symbol) := do
      let (test, ss) ← level? fuel 1 ss
      match ss with
      | .operator ['?'] :: ss => do
        let (left, ss) ← any? fuel ss
        match ss with
        | .operator [':'] :: ss => do
          let (right, ss) ← any? fuel ss
          return (.conditional test left right, ss)
        | _ => none
      | ss => return (test, ss)
    match ss with
    | .name name :: .operator sign :: rest =>
      match assigning? sign with
      | some sign => (any? fuel rest).map fun (value, ss) => (.assign name sign value, ss)
      | none => conditional ()
    | _ => conditional ()

/-- Reads operands between operators that bind at least as tightly as the given strength. -/
def level? : (fuel strength : Nat) → List Symbol → Option (Expression × List Symbol)
  | 0, _, _ => none
  | fuel + 1, strength, ss => do
    let (left, ss) ← operand? fuel ss
    levelAfter? fuel strength left ss

/-- Reads the operators and operands after a first operand. -/
def levelAfter? : (fuel strength : Nat) → Expression → List Symbol →
    Option (Expression × List Symbol)
  | 0, _, _, _ => none
  | fuel + 1, strength, left, ss =>
    match ss with
    | .operator sign :: rest =>
      match strength? sign with
      | none => some (left, ss)
      | some own =>
        if own < strength then some (left, ss)
        else do
          let (right, ss) ← level? fuel (own + 1) rest
          levelAfter? fuel strength (.binary sign left right) ss
    | _ => some (left, ss)

def operand? : (fuel : Nat) → List Symbol → Option (Expression × List Symbol)
  | 0, _ => none
  | fuel + 1, ss =>
    match ss with
    | .number n :: ss => some (.number n, ss)
    | .name name :: ss => some (.valueOf name, ss)
    | .operator ['('] :: ss => do
      let (e, ss) ← any? fuel ss
      match ss with
      | .operator [')'] :: ss => return (e, ss)
      | _ => none
    | .operator sign :: ss =>
      if ["-", "+", "!", "~"].any (·.toList = sign) then
        (operand? fuel ss).map fun (e, ss) => (.unary sign e, ss)
      else none
    | [] => none

end

/-- Reads an expression; nothing stands for zero. -/
def read? (t : Text) : Option Expression := do
  let ss ← symbols? (t.length + 1) t
  if ss.isEmpty then return .number 0
  match ← any? (4 * ss.length + 4) ss with
  | (e, []) => return e
  | _ => none

def wordSize : Nat := 0x10000000000000000

/-- A number as one of 64 bits. -/
def wrap (n : Int) : Int := n.bmod wordSize

def truth (b : Bool) : Int := if b then 1 else 0

def bitwise (f : Nat → Nat → Nat) (a b : Int) : Int :=
  wrap (f (a % wordSize).toNat (b % wordSize).toNat)

/-- The value of an operator between two numbers, unless it divides by zero. -/
def apply2? (sign : Text) (a b : Int) : Option Int :=
  match String.ofList sign with
  | "|" => some (bitwise (· ||| ·) a b)
  | "^" => some (bitwise (· ^^^ ·) a b)
  | "&" => some (bitwise (· &&& ·) a b)
  | "==" => some (truth (a = b))
  | "!=" => some (truth (a ≠ b))
  | "<" => some (truth (a < b))
  | ">" => some (truth (b < a))
  | "<=" => some (truth (a ≤ b))
  | ">=" => some (truth (b ≤ a))
  | "<<" => some (wrap (a * (1 <<< (b % 64).toNat : Nat)))
  | ">>" => some (a / (1 <<< (b % 64).toNat : Nat))
  | "+" => some (wrap (a + b))
  | "-" => some (wrap (a - b))
  | "*" => some (wrap (a * b))
  | "/" => if b = 0 then none else some (wrap (a.tdiv b))
  | "%" => if b = 0 then none else some (a.tmod b)
  | _ => none

/-- The value of an expression and the variables that it has set, the last one first. -/
def value? (get : Text → Option Int) : (set : List (Text × Int)) → Expression →
    Option (Int × List (Text × Int))
  | set, .number n => some (wrap n, set)
  | set, .valueOf name => ((set.lookup name).or (get name)).map (·, set)
  | set, .unary sign e => do
    let (n, set) ← value? get set e
    match sign with
    | ['-'] => return (wrap (-n), set)
    | ['!'] => return (truth (n = 0), set)
    | ['~'] => return (-n - 1, set)
    | _ => return (n, set)
  | set, .binary sign left right => do
    let (a, set) ← value? get set left
    if sign = ['&', '&'] then
      if a = 0 then return (0, set)
      let (b, set) ← value? get set right
      return (truth (b ≠ 0), set)
    if sign = ['|', '|'] then
      if a ≠ 0 then return (1, set)
      let (b, set) ← value? get set right
      return (truth (b ≠ 0), set)
    let (b, set) ← value? get set right
    return (← apply2? sign a b, set)
  | set, .conditional test left right => do
    let (n, set) ← value? get set test
    if n ≠ 0 then value? get set left else value? get set right
  | set, .assign name sign e => do
    let (b, set) ← value? get set e
    match sign with
    | none => return (b, (name, b) :: set)
    | some sign =>
      let a ← (set.lookup name).or (get name)
      let n ← apply2? sign a b
      return (n, (name, n) :: set)

end Expression
end Pseudocode.Shell
