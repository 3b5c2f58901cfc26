import Pseudocode.Shell.Word

/-!
# Commands of shell scripts

Commands are read from tokens by descent. A script is read line by line, so that what stands before
a mistake is still carried out.
-/

namespace Pseudocode.Shell

/-- What a redirection does with its channel. -/
inductive RedirectionKind where
  | input
  | output
  | append
  /-- The channel becomes another one, or is closed. -/
  | duplicate
  | document
deriving DecidableEq

structure Redirection where
  channel : Nat
  kind : RedirectionKind
  target : Word
deriving DecidableEq

inductive Command where
  | simple (line : Nat) (assignments : List (Text × Word)) (words : List Word)
      (redirections : List Redirection)
  | pipeline (negated : Bool) (parts : List Command)
  /-- The second if the first succeeds. -/
  | both (first second : Command)
  /-- The second if the first fails. -/
  | either (first second : Command)
  | sequence (parts : List Command)
  | subshell (body : Command)
  | conditional (test body otherwise : Command)
  /-- The body as long as the test succeeds, or fails. -/
  | loop (succeeds : Bool) (test body : Command)
  /-- The body for each of the words, or for each argument. -/
  | forEach (name : Text) (words : Option (List Word)) (body : Command)
  | choice (subject : Word) (arms : List (List Word × Command))
  | definition (name : Text) (body : Command)
  | redirected (body : Command) (redirections : List Redirection)

namespace Command

/-- The tokens after a word that is reserved for the grammar. -/
def reserved? (word : String) : List Token → Option (List Token)
  | .word w _ :: rest => if plainText? w = some word.toList then some rest else none
  | _ => none

/-- The tokens after an operator. -/
def operator? (sign : String) : List Token → Option (List Token)
  | .operator s :: rest => if s = sign.toList then some rest else none
  | _ => none

/-- The words that end a list of commands. -/
def closers : List String := ["then", "do", "done", "fi", "else", "elif", "esac", "\x7d"]

/-- Whether a list of commands ends before the tokens. -/
def atEnd (ts : List Token) : Bool :=
  ts.isEmpty || closers.any (fun word => (reserved? word ts).isSome)
    || (operator? ")" ts).isSome || (operator? ";;" ts).isSome

def skipLines (ts : List Token) : List Token := ts.dropWhile (· == .newLine)

def assignment? (w : Word) : Option (Text × Word) :=
  let plain : Part → Option Char := fun | .char c false => some c | _ => none
  let name := (w.map plain).takeWhile (fun c => c.any isNameChar)
  match w.drop name.length with
  | .char '=' false :: value =>
    let name := name.filterMap id
    if name.head?.any isNameStart then some (name, value) else none
  | _ => none

/-- The kind of redirection that an operator makes, and its usual channel. -/
def redirectionKind? (sign : Text) : Option (RedirectionKind × Nat) :=
  match String.ofList sign with
  | "<" => some (.input, 0)
  | "<>" => some (.input, 0)
  | ">" => some (.output, 1)
  | ">|" => some (.output, 1)
  | ">>" => some (.append, 1)
  | ">&" => some (.duplicate, 1)
  | "<&" => some (.duplicate, 0)
  | _ => none

def redirection? (ts : List Token) : Option (Redirection × List Token) :=
  let (channel?, ts) : Option Nat × List Token :=
    match ts with
    | .channel n :: ts => (some n, ts)
    | ts => (none, ts)
  match ts with
  | .document text :: ts => some (⟨channel?.getD 0, .document, text⟩, ts)
  | .operator sign :: .word w _ :: ts =>
    (redirectionKind? sign).map fun (kind, usual) => (⟨channel?.getD usual, kind, w⟩, ts)
  | _ => none

def redirections : (fuel : Nat) → List Token → List Redirection × List Token
  | 0, ts => ([], ts)
  | fuel + 1, ts =>
    match redirection? ts with
    | none => ([], ts)
    | some (r, ts) =>
      let (more, ts) := redirections fuel ts
      (r :: more, ts)

def simple? : (fuel line : Nat) → (assignments : List (Text × Word)) → (words : List Word) →
    List Redirection → List Token → Option (Command × List Token)
  | 0, _, _, _, _, _ => none
  | fuel + 1, line, as, ws, rs, ts =>
    match redirection? ts with
    | some (r, ts) => simple? fuel line as ws (rs ++ [r]) ts
    | none =>
      match ts with
      | .word w n :: ts =>
        let line := if line = 0 then n else line
        match if ws.isEmpty then assignment? w else none with
        | some a => simple? fuel line (as ++ [a]) ws rs ts
        | none => simple? fuel line as (ws ++ [w]) rs ts
      | .broken :: _ => none
      | .channel _ :: _ => none
      | _ =>
        if as.isEmpty ∧ ws.isEmpty ∧ rs.isEmpty then none
        else some (.simple line as ws rs, ts)

/-- Reads the words of an arm of a choice up to the closing parenthesis. -/
def armWords? : List Token → Option (List Word × List Token)
  | .word w _ :: .operator [')'] :: ts => some ([w], ts)
  | .word w _ :: .operator ['|'] :: ts => (armWords? ts).map fun (ws, ts) => (w :: ws, ts)
  | _ => none

def wordsToEnd : List Token → List Word × List Token
  | .word w _ :: ts =>
    let (ws, ts) := wordsToEnd ts
    (w :: ws, ts)
  | ts => ([], ts)

mutual

/-- Reads a list of commands, up to a token that ends it. -/
def sequence? : (fuel : Nat) → List Token → Option (List Command × List Token)
  | 0, _ => none
  | fuel + 1, ts =>
    let ts := skipLines ts
    if atEnd ts then some ([], ts)
    else do
      let (c, ts) ← chain? fuel ts
      match ts with
      | .newLine :: ts => (sequence? fuel ts).map fun (cs, ts) => (c :: cs, ts)
      | .operator [';'] :: ts => (sequence? fuel ts).map fun (cs, ts) => (c :: cs, ts)
      | .operator ['&'] :: ts => (sequence? fuel ts).map fun (cs, ts) => (c :: cs, ts)
      | ts => some ([c], ts)

/-- Reads a list of commands as one command. -/
def body? : (fuel : Nat) → List Token → Option (Command × List Token)
  | 0, _ => none
  | fuel + 1, ts => (sequence? fuel ts).map fun (cs, ts) => (.sequence cs, ts)

def chain? : (fuel : Nat) → List Token → Option (Command × List Token)
  | 0, _ => none
  | fuel + 1, ts => do
    let (first, ts) ← pipeline? fuel ts
    chainAfter? fuel first ts

/-- Reads the rest of pipelines between `&&` and `||`. -/
def chainAfter? : (fuel : Nat) → Command → List Token → Option (Command × List Token)
  | 0, _, _ => none
  | fuel + 1, first, ts =>
    match ts with
    | .operator ['&', '&'] :: ts => do
      let (second, ts) ← pipeline? fuel (skipLines ts)
      chainAfter? fuel (.both first second) ts
    | .operator ['|', '|'] :: ts => do
      let (second, ts) ← pipeline? fuel (skipLines ts)
      chainAfter? fuel (.either first second) ts
    | ts => some (first, ts)

def pipeline? : (fuel : Nat) → List Token → Option (Command × List Token)
  | 0, _ => none
  | fuel + 1, ts =>
    match reserved? "!" ts with
    | some ts => (pipeParts? fuel ts).map fun (cs, ts) => (.pipeline true cs, ts)
    | none =>
      (pipeParts? fuel ts).map fun (cs, ts) =>
        (match cs with
          | [c] => c
          | cs => .pipeline false cs, ts)

def pipeParts? : (fuel : Nat) → List Token → Option (List Command × List Token)
  | 0, _ => none
  | fuel + 1, ts => do
    let (c, ts) ← command? fuel ts
    match ts with
    | .operator ['|'] :: ts => (pipeParts? fuel (skipLines ts)).map fun (cs, ts) => (c :: cs, ts)
    | ts => some ([c], ts)

def command? : (fuel : Nat) → List Token → Option (Command × List Token)
  | 0, _ => none
  | fuel + 1, ts =>
    match ts with
    | .word w _ :: .operator ['('] :: .operator [')'] :: ts => do
      let name ← plainText? w
      let (body, ts) ← command? fuel (skipLines ts)
      some (.definition name body, ts)
    | ts =>
      match compound? fuel ts with
      | some (c, ts) =>
        let (rs, ts) := redirections ts.length ts
        some (if rs.isEmpty then c else .redirected c rs, ts)
      | none =>
        if atEnd ts ∨ ["if", "while", "until", "for", "case", "\x7b"].any
          (fun word => (reserved? word ts).isSome) then none
        else simple? (ts.length + 1) 0 [] [] [] ts

def compound? : (fuel : Nat) → List Token → Option (Command × List Token)
  | 0, _ => none
  | fuel + 1, ts =>
    match ts with
    | .operator ['('] :: ts => do
      let (body, ts) ← body? fuel ts
      let ts ← operator? ")" ts
      some (.subshell body, ts)
    | .word w _ :: ts =>
      match (plainText? w).map String.ofList with
      | some "\x7b" => do
        let (body, ts) ← body? fuel ts
        let ts ← reserved? "\x7d" ts
        some (body, ts)
      | some "if" => conditional? fuel ts
      | some "while" => loop? fuel true ts
      | some "until" => loop? fuel false ts
      | some "for" => forEach? fuel ts
      | some "case" => do
        let (subject, ts) ← match ts with
          | .word w _ :: ts => some (w, ts)
          | _ => none
        let ts ← reserved? "in" (skipLines ts)
        let (arms, ts) ← arms? fuel ts
        some (.choice subject arms, ts)
      | _ => none
    | _ => none

def conditional? : (fuel : Nat) → List Token → Option (Command × List Token)
  | 0, _ => none
  | fuel + 1, ts => do
    let (test, ts) ← body? fuel ts
    let ts ← reserved? "then" ts
    let (body, ts) ← body? fuel ts
    match reserved? "elif" ts with
    | some ts =>
      let (otherwise, ts) ← conditional? fuel ts
      some (.conditional test body otherwise, ts)
    | none =>
      match reserved? "else" ts with
      | some ts =>
        let (otherwise, ts) ← body? fuel ts
        let ts ← reserved? "fi" ts
        some (.conditional test body otherwise, ts)
      | none =>
        let ts ← reserved? "fi" ts
        some (.conditional test body (.sequence []), ts)

def loop? : (fuel : Nat) → (succeeds : Bool) → List Token → Option (Command × List Token)
  | 0, _, _ => none
  | fuel + 1, succeeds, ts => do
    let (test, ts) ← body? fuel ts
    let ts ← reserved? "do" ts
    let (body, ts) ← body? fuel ts
    let ts ← reserved? "done" ts
    some (.loop succeeds test body, ts)

/-- Reads a loop over words after its first word. -/
def forEach? : (fuel : Nat) → List Token → Option (Command × List Token)
  | 0, _ => none
  | fuel + 1, ts => do
    let (name, ts) ← match ts with
      | .word w _ :: ts => (plainText? w).map fun name => (name, ts)
      | _ => none
    let (words, ts) :=
      match reserved? "in" (skipLines ts) with
      | some ts =>
        let (ws, ts) := wordsToEnd ts
        (some ws, ts)
      | none => (none, ts)
    let ts := skipLines ((operator? ";" ts).getD ts)
    let ts ← reserved? "do" ts
    let (body, ts) ← body? fuel ts
    let ts ← reserved? "done" ts
    some (.forEach name words body, ts)

/-- Reads the arms of a choice. -/
def arms? : (fuel : Nat) → List Token → Option (List (List Word × Command) × List Token)
  | 0, _ => none
  | fuel + 1, ts =>
    let ts := skipLines ts
    match reserved? "esac" ts with
    | some ts => some ([], ts)
    | none => do
      let (words, ts) ← armWords? ((operator? "(" ts).getD ts)
      let (body, ts) ← body? fuel ts
      match operator? ";;" ts with
      | some ts => (arms? fuel ts).map fun (arms, ts) => ((words, body) :: arms, ts)
      | none => (reserved? "esac" ts).map fun ts => ([(words, body)], ts)

end

/-- The commands of a script, and whether all of it could be read. -/
def listOf : (fuel : Nat) → List Token → List Command × Bool
  | 0, _ => ([], false)
  | fuel + 1, ts =>
    let ts := skipLines ts
    if ts.isEmpty then ([], true)
    else
      match chain? (20 * ts.length + 20) ts with
      | none => ([], false)
      | some (c, ts) =>
        let next (ts : List Token) : List Command × Bool :=
          let (cs, isWhole) := listOf fuel ts
          (c :: cs, isWhole)
        match ts with
        | [] => ([c], true)
        | .newLine :: ts => next ts
        | .operator [';'] :: ts => next ts
        | .operator ['&'] :: ts => next ts
        | _ => ([c], false)

/-- The commands of a script up to the first mistake, and whether there is none. -/
def ofScript (script : Text) : List Command × Bool :=
  let ts := tokens script
  listOf (ts.length + 1) ts

end Command
end Pseudocode.Shell
