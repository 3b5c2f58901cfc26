import Pseudocode.Shell.Expansion
import Pseudocode.Shell.Utility

/-!
# Commands of the shell itself

Commands that change the session and run no other command.
-/

namespace Pseudocode.Shell.Builtin

/-- The number that an argument writes, or the given one if there is none. -/
def countOr (default : Nat) : List Text → Option Nat
  | [] => some default
  | t :: _ => if !t.isEmpty && t.all Text.isAsciiDigit then some (Text.decimalValue t) else none

def exit : Utility := fun s arguments =>
  match countOr s.status arguments with
  | some n => { s with flow := .exits, status := n % 256 }
  | none =>
    let complaint := "exit: Illegal number: ".toList ++ arguments.headD []
    { s.complain complaint with flow := .exits, status := 2 }

def returns : Utility := fun s arguments =>
  { s with flow := .returns, status := ((countOr s.status arguments).getD 2) % 256 }

def breaks : Utility := fun s arguments =>
  { s with flow := .breaks ((countOr 1 arguments).getD 1), status := 0 }

def continues : Utility := fun s arguments =>
  { s with flow := .continues ((countOr 1 arguments).getD 1), status := 0 }

def shift : Utility := fun s arguments =>
  let n := (countOr 1 arguments).getD 1
  if s.arguments.length < n then
    { s.complain "shift: can't shift that many".toList with flow := .exits, status := 2 }
  else { s with arguments := s.arguments.drop n, status := 0 }

def set : Utility := fun s arguments =>
  match arguments with
  | ['-', '-'] :: rest => { s with arguments := rest, status := 0 }
  | ['-', 'o'] :: name :: _ =>
    { s with strict := s.strict || name = "errexit".toList, status := 0 }
  | ['+', 'o'] :: name :: _ =>
    { s with strict := s.strict && name != "errexit".toList, status := 0 }
  | ('-' :: letters) :: rest =>
    let s := { s with strict := s.strict || letters.contains 'e', status := 0 }
    match rest with
    | [] => s
    | ['-', '-'] :: rest => { s with arguments := rest }
    | rest => { s with arguments := rest }
  | ('+' :: letters) :: _ => { s with strict := s.strict && !letters.contains 'e', status := 0 }
  | [] => s.withStatus 0
  | arguments => { s with arguments := arguments, status := 0 }

def unset : Utility := fun s arguments =>
  ((Utility.options arguments).2.foldl Session.unset s).withStatus 0

/-- Gives variables values, where the arguments hold any. -/
def assign : Utility := fun s arguments =>
  ((Utility.options arguments).2.foldl (fun s t =>
    match t.span (· != '=') with
    | (name, _ :: value) => s.set name value
    | _ => s) s).withStatus 0

/-- Makes variables those of the current function. -/
def localise : Utility := fun s arguments =>
  assign (arguments.foldl (fun s t =>
    let name := t.takeWhile (· != '=')
    { s with locals := (name, s.lookUp? name) :: s.locals }) s) arguments

def cd : Utility := fun s arguments =>
  let path := arguments.headD ((s.lookUp? "HOME".toList).getD ['/'])
  match s.host.enter (toHostText path) with
  | .ok h => { s with host := h, status := 0 }
  | .error _ => (s.complain ("cd: can't cd to ".toList ++ path)).withStatus 2

/-- Ends the script by a signal, if that is sent to it. -/
def kill : Utility := fun s arguments =>
  let isProbe := arguments.any fun t => t == ['-', '0']
  match arguments.getLast? with
  | some ['1'] => if isProbe then s.withStatus 0 else { s with flow := .killed }
  | some ['0'] => if isProbe then s.withStatus 0 else { s with flow := .killed }
  | _ => (s.complain "kill: No such process".toList).withStatus 1

/-- A line of input, with the characters after backslashes marked, and what follows the line.
Unless the line is `raw`, a line feed after a backslash is no part of it. -/
def inputLine (raw : Bool) : Text → List Sign × Option Text
  | [] => ([], none)
  | '\n' :: rest => ([], some rest)
  | '\\' :: c :: rest =>
    if raw then
      let (line, rest) := inputLine raw (c :: rest)
      (('\\', false) :: line, rest)
    else
      let (line, rest) := inputLine raw rest
      (if c = '\n' then line else (c, true) :: line, rest)
  | c :: rest =>
    let (line, rest) := inputLine raw rest
    ((c, false) :: line, rest)

/-- The characters that separate the fields of a line and are blank. -/
def isBlankSeparator (separators : Text) (x : Sign) : Bool :=
  !x.2 && separators.contains x.1 && " \t\n".toList.contains x.1

/-- Splits a line among names: one field for each, and all that remains for the last one. -/
def share (separators : Text) : (names : List Text) → List Sign → List (Text × Text)
  | [], _ => []
  | [name], line =>
    let line := line.dropWhile (isBlankSeparator separators)
    let line := (line.reverse.dropWhile (isBlankSeparator separators)).reverse
    [(name, line.map (·.1))]
  | name :: names, line =>
    let line := line.dropWhile (isBlankSeparator separators)
    let (field, rest) := line.span fun (c, quoted) => quoted || !separators.contains c
    let rest := rest.dropWhile (isBlankSeparator separators)
    let rest := match rest with
      | (c, false) :: more =>
        if separators.contains c ∧ !" \t\n".toList.contains c ∧ field.length < line.length
        then more else rest
      | rest => rest
    (name, field.map (·.1)) :: share separators names rest

def read : Utility := fun s arguments =>
  let (letters, names) := Utility.options arguments
  if names.isEmpty then (s.complain "read: arg count".toList).withStatus 2
  else
    let (line, rest) := inputLine (letters.contains 'r') s.input
    let values := share s.separators names line
    let s := values.foldl (fun s (name, value) => s.set name value) s
    match rest with
    | some rest => (s.leave rest).withStatus 0
    | none => (s.leave []).withStatus 1

def table : List (Text × Utility) := [
  (":".toList, Utility.skip 0), ("break".toList, breaks), ("cd".toList, cd),
  ("continue".toList, continues), ("exit".toList, exit), ("export".toList, assign),
  ("kill".toList, kill), ("local".toList, localise), ("read".toList, read),
  ("readonly".toList, assign), ("return".toList, returns), ("set".toList, set),
  ("shift".toList, shift), ("trap".toList, Utility.skip 0), ("umask".toList, Utility.skip 0),
  ("unset".toList, unset), ("wait".toList, Utility.skip 0)]

end Pseudocode.Shell.Builtin
