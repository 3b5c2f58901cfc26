import Pseudocode.Shell.Arithmetic
import Pseudocode.Shell.Glob
import Pseudocode.Shell.Session

/-!
# Expansion

A word becomes fields: its parameters, outputs and numbers are put in, what came unquoted is split at
separators, and unquoted globs become paths. Outputs need a run of their own, which is a parameter
here.
-/

namespace Pseudocode.Shell

/-- A piece of an expanded word. -/
inductive Piece where
  /-- A character; one that `splits` came from an expansion outside quotes. -/
  | char (c : Char) (quoted splits : Bool)
  /-- Makes a field even of nothing. -/
  | quotes
  /-- Ends a field. -/
  | cut
deriving DecidableEq

namespace Expansion

def value (quoted : Bool) (t : Text) : List Piece :=
  (if quoted then [.quotes] else []) ++ t.map (.char · quoted (!quoted))

/-- All arguments put into a word, as fields of their own. -/
def separate (quoted : Bool) : List Text → List Piece
  | [] => []
  | [t] => value quoted t
  | t :: ts => value quoted t ++ .cut :: separate quoted ts

/-- The value of `*` within quotes. -/
def joined (s : Session) : Text := Text.joinWith (s.separators.take 1) s.arguments

/-- The shortest, or longest, start of a text that a glob stands for is dropped. -/
def dropMatchingStart (glob : List Glob.Part) (longest : Bool) (t : Text) : Text :=
  let lengths := (List.range (t.length + 1)).filter fun n => Glob.isMatch glob (t.take n)
  match if longest then lengths.getLast? else lengths.head? with
  | some n => t.drop n
  | none => t

/-- The shortest, or longest, end of a text that a glob stands for is dropped. -/
def dropMatchingEnd (glob : List Glob.Part) (longest : Bool) (t : Text) : Text :=
  let lengths := (List.range (t.length + 1)).filter fun n => Glob.isMatch glob (t.drop n)
  match if longest then lengths.head? else lengths.getLast? with
  | some n => t.take n
  | none => t

def signs (ps : List Piece) : List Sign :=
  ps.filterMap fun | .char c quoted _ => some (c, quoted) | _ => none

def text (ps : List Piece) : Text := (signs ps).map (·.1)

def stop (s : Session) (complaint : Text) : Session :=
  { s.complain complaint with flow := .exits, status := 2 }

/-- The value of a variable as a number of an arithmetic expression. -/
def number? (t : Text) : Option Int :=
  match Text.dropEndWhile (· == ' ') (t.dropWhile (· == ' ')) with
  | [] => some 0
  | '-' :: digits => (Expression.number? digits).map (-·)
  | digits => Expression.number? digits

/-- The value of an arithmetic expression, whose variables may be set. -/
def arithmetic (s : Session) (expression : Text) : Session × Text :=
  let get (name : Text) : Option Int := number? ((s.parameter? name).getD [])
  match (Expression.read? expression).bind (Expression.value? get []) with
  | none => (stop s ("arithmetic expression: \"".toList ++ expression ++ ['"']), [])
  | some (n, set) =>
    (set.foldr (fun (name, n) s => s.set name (toString n).toList) s, (toString n).toList)

/-- What stands after the sign of a modifier, and whether an empty value counts as missing. -/
def modifier (t : Text) : Bool × Text :=
  match t with
  | ':' :: rest => (true, rest)
  | _ => (false, t)

mutual

def pieces (output : Session → Text → Session × Text) :
    (fuel : Nat) → Session → Word → Session × List Piece
  | 0, s, _ => (s, [])
  | _ + 1, s, [] => (s, [])
  | fuel + 1, s, part :: rest =>
    let (s, first) := part? output fuel s part
    let (s, more) := pieces output fuel s rest
    (s, first ++ more)

def within (output : Session → Text → Session × Text) :
    (fuel : Nat) → (quoted : Bool) → Session → Text → Session × List Piece
  | 0, _, s, _ => (s, [])
  | fuel + 1, quoted, s, t =>
    let w? :=
      if quoted then doubleQuoted? false (t.length + 1) t
      else word? (fun _ => false) (t.length + 1) t
    match w? with
    | some (w, _) =>
      let (s, ps) := pieces output fuel s w
      (s, ps.map fun
        | .char c q _ => .char c q (!q && !quoted)
        | p => p)
    | none => (stop s "Bad substitution".toList, [])

def part? (output : Session → Text → Session × Text) :
    (fuel : Nat) → Session → Part → Session × List Piece
  | 0, s, _ => (s, [])
  | fuel + 1, s, part =>
    match part with
    | .char c quoted => (s, [.char c quoted false])
    | .quotes => (s, [.quotes])
    | .length name quoted =>
      (s, value quoted (Text.ofNat ((s.parameter? name).getD []).length))
    | .output script quoted =>
      let (s, t) := output s script
      (s, value quoted (Text.dropEndWhile (· == '\n') t))
    | .arithmetic expression quoted =>
      let (s, ps) := within output fuel true s expression
      let (s, t) := arithmetic s (text ps)
      (s, value quoted t)
    | .parameter name change quoted =>
      let plain : List Piece :=
        if name = ['@'] then separate quoted s.arguments
        else if name = ['*'] then
          if quoted then value true (joined s) else separate false s.arguments
        else value quoted ((s.parameter? name).getD [])
      let current : Option Text :=
        if name = ['@'] ∨ name = ['*'] then
          if s.arguments.isEmpty then none else some (joined s)
        else s.parameter? name
      let (emptyCounts, change) := modifier change
      let isMissing := if emptyCounts then (current.getD []).isEmpty else current.isNone
      match change with
      | [] => (s, plain)
      | '-' :: t => if isMissing then within output fuel quoted s t else (s, plain)
      | '+' :: t =>
        if isMissing then (s, if quoted then [.quotes] else []) else within output fuel quoted s t
      | '=' :: t =>
        if isMissing then
          let (s, ps) := within output fuel quoted s t
          (s.set name (text ps), value quoted (text ps))
        else (s, plain)
      | '?' :: t =>
        if isMissing then
          let (s, ps) := within output fuel quoted s t
          let reason := if t.isEmpty then "parameter not set".toList else text ps
          (stop s (name ++ ": ".toList ++ reason), [])
        else (s, plain)
      | '#' :: '#' :: t => trimmed output fuel quoted s t (dropMatchingStart · true) current
      | '#' :: t => trimmed output fuel quoted s t (dropMatchingStart · false) current
      | '%' :: '%' :: t => trimmed output fuel quoted s t (dropMatchingEnd · true) current
      | '%' :: t => trimmed output fuel quoted s t (dropMatchingEnd · false) current
      | _ => (stop s "Bad substitution".toList, [])

/-- Expands a parameter from which what a glob stands for is dropped. -/
def trimmed (output : Session → Text → Session × Text) :
    (fuel : Nat) → (quoted : Bool) → Session → (glob : Text) →
      (List Glob.Part → Text → Text) → (current : Option Text) → Session × List Piece
  | 0, _, s, _, _, _ => (s, [])
  | fuel + 1, quoted, s, glob, drop, current =>
    let (s, ps) := within output fuel false s glob
    (s, value quoted (drop (Glob.parts (signs ps)) (current.getD [])))

end

/-- A field that is being put together, if there is one. -/
abbrev Open := Option (List Sign)

/-- Cuts pieces into fields. -/
def fieldsFrom (separators : Text) : (current : Open) → List Piece → List (List Sign)
  | current, [] => current.toList
  | current, .cut :: rest => current.toList ++ fieldsFrom separators none rest
  | current, .quotes :: rest => fieldsFrom separators (some (current.getD [])) rest
  | current, .char c quoted splits :: rest =>
    if splits ∧ separators.contains c then
      let isBlank := " \t\n".toList.contains c
      match current with
      | some field => field :: fieldsFrom separators none rest
      | none => (if isBlank then [] else [[]]) ++ fieldsFrom separators none rest
    else fieldsFrom separators (some (current.getD [] ++ [(c, quoted)])) rest

/-- How deep expansions may be nested, for a word. -/
@[irreducible] def depth (w : Word) : Nat := w.length + 1000

def fields (output : Session → Text → Session × Text) (s : Session) :
    List Word → Session × List Text
  | [] => (s, [])
  | w :: ws =>
    let (s, ps) := pieces output (depth w) s w
    let own := (fieldsFrom s.separators none ps).flatMap (Glob.paths s.host)
    let (s, more) := fields output s ws
    (s, own ++ more)

/-- The pieces of a word that is one field. -/
def single (output : Session → Text → Session × Text) (s : Session) (w : Word) :
    Session × List Piece :=
  let (s, ps) := pieces output (depth w) s w
  (s, ps.map fun
    | .cut => .char ' ' true false
    | p => p)

end Expansion
end Pseudocode.Shell
