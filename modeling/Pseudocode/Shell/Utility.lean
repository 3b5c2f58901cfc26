import Pseudocode.Shell.Glob
import Pseudocode.Shell.Printing
import Pseudocode.Shell.Test

/-!
# Utilities

Programs that scripts start by name: they read files and standard input, write to the open channels
and change the files of the host.
-/

namespace Pseudocode.Shell

/-- A utility under its name: it changes a session, given its arguments. -/
abbrev Utility := Session → List Text → Session

namespace Utility

/-- The reason for a refusal, as utilities give it. -/
def reason (cause : HostFault) : Text := Text.before " (os".toList cause.message

def refuse (s : Session) (utility path : Text) (cause : HostFault) : Session :=
  (s.warn (utility ++ ": ".toList ++ path ++ ": ".toList ++ reason cause)).withStatus 1

/-- The text of an operand: that of a file, or what is left of standard input for a hyphen. -/
def operand (s : Session) (path : Text) : Session × Except HostFault Text :=
  if path = ['-'] then (s.leave [], .ok s.input) else (s, s.contents path)

/-- The options among the arguments, as letters, and the operands. -/
def options : List Text → Text × List Text
  | ['-', '-'] :: rest => ([], rest)
  | ('-' :: c :: letters) :: rest =>
    let (more, operands) := options rest
    (c :: letters ++ more, operands)
  | operands => ([], operands)

/-- Does something with the text of each operand, or of standard input if there is none. -/
def forTexts (utility : Text) (f : Session → (path t : Text) → Session) (s : Session)
    (paths : List Text) : Session :=
  (if paths.isEmpty then [['-']] else paths).foldl (fun s path =>
    match operand s path with
    | (s, .ok t) => f s path t
    | (s, .error cause) => refuse s utility path cause) (s.withStatus 0)

/-- A text cut after each line feed, which stays. -/
def linesOf (t : Text) : List Text :=
  let lines := Text.splitAt (· == '\n') t
  let last := lines.getLastD []
  lines.dropLast.map (· ++ ['\n']) ++ (if last.isEmpty then [] else [last])

def cat : Utility := fun s arguments =>
  forTexts "cat".toList (fun s _ t => s.say t) s (options arguments).2

/-- The number of lines asked for, and the operands. -/
def lineCount : List Text → Text × List Text
  | ['-', 'n'] :: n :: rest => (n, rest)
  | ('-' :: 'n' :: n) :: rest => (n, rest)
  | ('-' :: c :: n) :: rest => if Text.isAsciiDigit c then (c :: n, rest) else ("10".toList, rest)
  | operands => ("10".toList, operands)

def head : Utility := fun s arguments =>
  let (n, paths) := lineCount arguments
  forTexts "head".toList (fun s _ t => s.say ((linesOf t).take (Text.decimalValue n)).flatten) s paths

/-- Writes the last lines of texts; a number after a plus sign is that of the first line. -/
def tail : Utility := fun s arguments =>
  let (n, paths) := lineCount arguments
  let cut (lines : List Text) : List Text :=
    match n with
    | '+' :: n => lines.drop (Text.decimalValue n - 1)
    | n => lines.drop (lines.length - Text.decimalValue n)
  forTexts "tail".toList (fun s _ t => s.say (cut (linesOf t)).flatten) s paths

/-- The number of characters that are no separators after one that is, or at the start. -/
def wordCount (t : Text) : Nat :=
  ((Text.splitAt (fun c => " \t\n\x0b\x0c\r".toList.contains c) t).filter (!·.isEmpty)).length

def wc : Utility := fun s arguments =>
  let (letters, paths) := options arguments
  let letters := if letters.isEmpty then "lwc".toList else letters
  let counts (t : Text) : List Nat :=
    (if letters.contains 'l' then [t.count '\n'] else [])
      ++ (if letters.contains 'w' then [wordCount t] else [])
      ++ (if letters.contains 'c' ∨ letters.contains 'm' then [t.length] else [])
  let column (width n : Nat) : Text :=
    List.replicate (width - (Text.ofNat n).length) ' ' ++ Text.ofNat n
  let row (width : Nat) (counts : List Nat) (path : Text) : Text :=
    Text.joinWith [' '] (counts.map (column width))
      ++ (if path = ['-'] then [] else ' ' :: path) ++ ['\n']
  let texts := (if paths.isEmpty then [['-']] else paths).filterMap fun path =>
    match (operand s path).2 with
    | .ok t => some (path, counts t)
    | .error _ => none
  let total := (List.range letters.length).map fun i =>
    texts.foldl (fun n (_, ns) => n + ns.getD i 0) 0
  let bytes := (if paths.isEmpty then [['-']] else paths).foldl (fun n path =>
    match (operand s path).2 with
    | .ok t => n + t.length
    | .error _ => n) 0
  let width :=
    if letters.length = 1 ∧ paths.length ≤ 1 then 1
    else if paths.isEmpty then 7 else (Text.ofNat bytes).length
  let s := forTexts "wc".toList (fun s path t => s.say (row width (counts t) path)) s
    (if paths.isEmpty then [['-']] else paths)
  if paths.length ≤ 1 then s else s.say (row width total "total".toList)

def sort : Utility := fun s arguments =>
  let (letters, paths) := options arguments
  let paths := if paths.isEmpty then [['-']] else paths
  let (s, t) := paths.foldl (fun (s, t) path =>
    match operand s path with
    | (s, .ok more) => (s, t ++ (linesOf more).map fun line => Text.dropEndWhile (· == '\n') line)
    | (s, .error cause) => (refuse s "sort".toList path cause, t))
    (s.withStatus 0, ([] : List Text))
  let number (line : Text) : Int := Printing.numberOf (line.dropWhile (· == ' '))
  let before (a b : Text) : Bool :=
    if letters.contains 'n' ∧ number a ≠ number b then number a < number b else Text.notAfter a b
  let lines := t.mergeSort before
  let lines := if letters.contains 'r' then lines.reverse else lines
  let lines := if letters.contains 'u' then lines.eraseReps else lines
  s.say (lines.flatMap (· ++ ['\n']))

def grep : Utility := fun s arguments =>
  let (letters, operands) := options arguments
  match operands with
  | [] => (s.warn "usage: grep pattern [file ...]".toList).withStatus 2
  | pattern :: paths =>
    let same (t : Text) : Text := if letters.contains 'i' then t.map Text.asciiLower else t
    let holds (line : Text) : Bool :=
      Text.occursIn (same pattern) (same line) != letters.contains 'v'
    let label (path : Text) : Text := if paths.length < 2 then [] else path ++ [':']
    let display (s : Session) (path t : Text) : Session :=
      let lines := ((linesOf t).map fun line => Text.dropEndWhile (· == '\n') line).zipIdx
      let found := lines.filter fun (line, _) => holds line
      let s := if found.isEmpty then s else s.withStatus 0
      if letters.contains 'q' then s
      else if letters.contains 'c' then s.say (label path ++ Text.ofNat found.length ++ ['\n'])
      else if letters.contains 'l' then if found.isEmpty then s else s.say (path ++ ['\n'])
      else s.say <| found.flatMap fun (line, i) =>
        label path ++ (if letters.contains 'n' then Text.ofNat (i + 1) ++ [':'] else [])
          ++ line ++ ['\n']
    (if paths.isEmpty then [['-']] else paths).foldl (fun s path =>
      match operand s path with
      | (s, .ok t) => display s path t
      | (s, .error cause) => (refuse s "grep".toList path cause).withStatus 2) (s.withStatus 1)

/-- The characters that a set of `tr` names, with its ranges written out. -/
def charactersOf : (fuel : Nat) → Text → Text
  | 0, _ => []
  | fuel + 1, a :: '-' :: b :: rest =>
    (List.range (b.toNat + 1 - a.toNat)).map (fun i => Char.ofNat (a.toNat + i))
      ++ charactersOf fuel rest
  | fuel + 1, '\\' :: c :: rest => (Printing.escape? c).getD c :: charactersOf fuel rest
  | fuel + 1, c :: rest => c :: charactersOf fuel rest
  | _ + 1, [] => []

def tr : Utility := fun s arguments =>
  let (letters, operands) := options arguments
  let t := s.input
  let s := (s.leave []).withStatus 0
  match operands.map fun set => charactersOf (set.length + 1) set with
  | [set] => if letters.contains 'd' then s.say (t.filter (!set.contains ·)) else s.say t
  | set :: other :: _ =>
    s.say <| t.map fun c =>
      match set.idxOf? c with
      | some i => other[i]?.getD (other.getLastD c)
      | none => c
  | [] => (s.warn "tr: missing operand".toList).withStatus 1

def seq : Utility := fun s arguments =>
  let (first, step, last) : Int × Int × Int :=
    match arguments.map Printing.numberOf with
    | [last] => (1, 1, last)
    | [first, last] => (first, 1, last)
    | first :: step :: last :: _ => (first, step, last)
    | [] => (1, 1, 0)
  let count : Nat :=
    if step = 0 then 0
    else if 0 < step then (if last < first then 0 else ((last - first) / step + 1).toNat)
    else (if first < last then 0 else ((first - last) / (-step) + 1).toNat)
  (s.say ((List.range count).flatMap fun i =>
    (toString (first + step * Int.ofNat i)).toList ++ ['\n'])).withStatus 0

/-- Writes the value of an operator between two operands. -/
def expr : Utility := fun s arguments =>
  let answer (t : Text) : Session :=
    (s.say (t ++ ['\n'])).withStatus (if t.isEmpty ∨ t = ['0'] then 1 else 0)
  let fail (reason : String) : Session :=
    (s.warn ("expr: ".toList ++ reason.toList)).withStatus 2
  match arguments with
  | [t] => answer t
  | [a, sign, b] =>
    match Test.integer? a, Test.integer? b with
    | some m, some n =>
      let number (n : Int) : Session := answer (toString n).toList
      let truth (b : Bool) : Session := number (if b then 1 else 0)
      match String.ofList sign with
      | "+" => number (m + n)
      | "-" => number (m - n)
      | "*" => number (m * n)
      | "/" => if n = 0 then fail "division by zero" else number (m.tdiv n)
      | "%" => if n = 0 then fail "division by zero" else number (m.tmod n)
      | "<" => truth (m < n)
      | "<=" => truth (m ≤ n)
      | "=" => truth (m = n)
      | "!=" => truth (m ≠ n)
      | ">=" => truth (n ≤ m)
      | ">" => truth (n < m)
      | _ => fail "syntax error"
    | _, _ =>
      match String.ofList sign with
      | "=" => answer [if a = b then '1' else '0']
      | "!=" => answer [if a = b then '0' else '1']
      | _ => fail "non-integer argument"
  | [word, t] => if word = "length".toList then answer (Text.ofNat t.length) else fail "syntax error"
  | _ => fail "syntax error"

def ls : Utility := fun s arguments =>
  let (letters, paths) := options arguments
  let names (path : Text) : List Text :=
    let names := (Glob.namesIn s.host path).filter fun name =>
      letters.contains 'a' || letters.contains 'A' || name.head? != some '.'
    if letters.contains 'a' then ['.'] :: ['.', '.'] :: names else names
  let lines (names : List Text) : Text := names.flatMap (· ++ ['\n'])
  let paths := if paths.isEmpty then [['.']] else paths.mergeSort Text.notAfter
  let s := s.withStatus 0
  let s := paths.foldl (fun s path =>
    if (s.entryAt? path).isSome then s
    else (s.warn ("ls: cannot access '".toList ++ path ++ "': No such file or directory".toList)).withStatus
      2) s
  let isDirectory (path : Text) : Bool :=
    s.entryAt? path == some .directory && !letters.contains 'd'
  let files := paths.filter fun path => (s.entryAt? path).isSome && !isDirectory path
  let directories := paths.filter isDirectory
  let s := s.say (lines files)
  if paths.length = 1 then directories.foldl (fun s path => s.say (lines (names path))) s
  else
    let blocks := directories.map fun path => path ++ ":\n".toList ++ lines (names path)
    s.say ((if files.isEmpty ∨ blocks.isEmpty then [] else ['\n']) ++ Text.joinWith ['\n'] blocks)

def mkdir : Utility := fun s arguments =>
  let (letters, paths) := options arguments
  paths.foldl (fun s path =>
    let made := if letters.contains 'p' then s.host.makeDirectories (toHostText path)
      else s.host.makeDirectoryFrom
        (if Path.isAbsolute path then [] else s.host.workingDirectory)
        ((Path.parts (toHostText path)).filter fun part => !part.isEmpty)
    match made with
    | .ok h => { s with host := h }
    | .error cause =>
      (s.warn ("mkdir: cannot create directory '".toList ++ path ++ "': ".toList
        ++ reason cause)).withStatus 1) (s.withStatus 0)

/-- Removes files, and directories with all below them where that is asked for. -/
def rm : Utility := fun s arguments =>
  let (letters, paths) := options arguments
  paths.foldl (fun s path =>
    let refuse (cause : Text) : Session :=
      (s.warn ("rm: cannot remove '".toList ++ path ++ "': ".toList ++ cause)).withStatus 1
    match s.host.place (toHostText path) with
    | .error cause => if letters.contains 'f' then s else refuse (reason cause)
    | .ok place =>
      match s.host.entry? place with
      | none => if letters.contains 'f' then s else refuse (reason .notFound)
      | some .directory =>
        if letters.contains 'r' ∨ letters.contains 'R' then { s with host := s.host.remove place }
        else refuse (reason .isDirectory)
      | some _ => { s with host := s.host.remove place }) (s.withStatus 0)

def touch : Utility := fun s arguments =>
  (options arguments).2.foldl (fun s path =>
    if (s.entryAt? path).isSome then s
    else
      match s.host.write (toHostText path) [] with
      | .ok h => { s with host := h }
      | .error cause =>
        (s.warn ("touch: cannot touch '".toList ++ path ++ "': ".toList ++ reason cause)).withStatus
          1) (s.withStatus 0)

/-- The path under which a file is put at a target: below it if it is a directory. -/
def targetPath (s : Session) (path target : Text) : Text :=
  if s.entryAt? target == some .directory then
    Path.join target (((Path.parts path).filter (!·.isEmpty)).getLastD [])
  else target

/-- Copies files, and takes them away where they were if `moves`. -/
def copy (name : Text) (moves : Bool) : Utility := fun s arguments =>
  let operands := (options arguments).2
  let target := operands.getLastD []
  operands.dropLast.foldl (fun s path =>
    match s.host.place (toHostText path), s.contents path with
    | .ok place, .ok t =>
      let executable := match s.host.entry? place with | some (.file _ x) => x | _ => false
      let goal := targetPath s path target
      match s.host.write (toHostText goal) (toBytes t) with
      | .ok h =>
        let h := if moves then h.remove place else h
        match h.place (toHostText goal) with
        | .ok goal => { s with host := h.put goal (.file (toBytes t) executable) }
        | .error _ => { s with host := h }
      | .error cause => refuse s name goal cause
    | _, .error cause => refuse s name path cause
    | .error cause, _ => refuse s name path cause) (s.withStatus 0)

def chmod : Utility := fun s arguments =>
  match (options arguments).2 with
  | [] => s.withStatus 1
  | mode :: paths =>
    let executable := mode.contains 'x' || mode.head? = some '7'
    paths.foldl (fun s path =>
      match s.host.place (toHostText path) with
      | .ok place =>
        match s.host.entry? place with
        | some (.file bytes _) => { s with host := s.host.put place (.file bytes executable) }
        | some _ => s
        | none => refuse s "chmod".toList path .notFound
      | .error cause => refuse s "chmod".toList path cause) (s.withStatus 0)

/-- Writes the last name of a path, without an ending. -/
def basename : Utility := fun s arguments =>
  let path := Text.dropEndWhile (· == '/') (arguments.headD [])
  let name := (Text.splitAt (· == '/') path).getLastD []
  let ending := arguments.getD 1 []
  let name :=
    if ending ≠ name ∧ ending.isSuffixOf name then name.take (name.length - ending.length) else name
  (s.say (name ++ ['\n'])).withStatus 0

def dirname : Utility := fun s arguments =>
  let path := Text.dropEndWhile (· == '/') (arguments.headD [])
  let outer := Text.dropEndWhile (· == '/') (Text.dropEndWhile (· != '/') path)
  let outer := if outer.isEmpty then (if path.contains '/' then ['/'] else ['.']) else outer
  (s.say (outer ++ ['\n'])).withStatus 0

def pwd : Utility := fun s _ =>
  (s.say ('/' :: Text.joinWith ['/'] (s.host.workingDirectory.map ofHostText) ++ ['\n'])).withStatus 0

def echo : Utility := fun s arguments => (s.say (Printing.echo arguments)).withStatus 0

def printf : Utility := fun s arguments => (s.say (Printing.printf arguments)).withStatus 0

def skip (status : Nat) : Utility := fun s _ => s.withStatus status

def table : List (Text × Utility) := [
  ("[".toList, Test.run ['[']), ("basename".toList, basename), ("cat".toList, cat),
  ("chmod".toList, chmod), ("cp".toList, copy "cp".toList false), ("dirname".toList, dirname),
  ("echo".toList, echo), ("expr".toList, expr), ("false".toList, skip 1), ("grep".toList, grep), ("head".toList, head),
  ("ls".toList, ls), ("mkdir".toList, mkdir), ("mv".toList, copy "mv".toList true),
  ("printf".toList, printf), ("pwd".toList, pwd), ("rm".toList, rm), ("seq".toList, seq),
  ("sleep".toList, skip 0), ("sort".toList, sort), ("sync".toList, skip 0), ("tail".toList, tail),
  ("test".toList, Test.run "test".toList), ("touch".toList, touch), ("tr".toList, tr),
  ("true".toList, skip 0), ("wc".toList, wc)]

end Utility
end Pseudocode.Shell
