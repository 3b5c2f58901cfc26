import Pseudocode.Shell.Builtin
import Pseudocode.Shell.Executable

/-!
# Runs of scripts

Commands change sessions. Fuel bounds the depth of a run, loops included; a run without fuel ends.
-/

namespace Pseudocode.Shell

/-- The session after a run that had its own variables and channels: only what belongs to the host
is kept, and the status. -/
def Session.after (s child : Session) : Session :=
  { s with
    host := { child.host with workingDirectory := s.host.workingDirectory }
    sources := child.sources
    streams := child.streams
    status := child.status
    flow := if child.flow = .killed then .killed else s.flow }

/-- A session that goes on after a function has returned. -/
def Session.returned (s : Session) : Session :=
  { s with flow := if s.flow = .returns then .normal else s.flow }

/-- Ends the script if a command that is not a test has failed and that is asked for. -/
def Session.checked (s : Session) (tested : Bool) : Session :=
  if s.strict && !tested && s.status != 0 && s.flow == .normal then { s with flow := .exits } else s

/-- The session after the body of a loop, and whether the loop goes on. -/
def Session.afterRound (s : Session) : Session × Bool :=
  match s.flow with
  | .normal => (s, true)
  | .breaks n => ({ s with flow := if n ≤ 1 then .normal else .breaks (n - 1) }, false)
  | .continues n =>
    if n ≤ 1 then ({ s with flow := .normal }, true)
    else ({ s with flow := .continues (n - 1) }, false)
  | _ => (s, false)

def openFile (s : Session) (channel : Nat) (path : Text) (appends : Bool) : Session × Bool :=
  let refuse (reason : String) : Session × Bool :=
    (s.complain ("cannot create ".toList ++ path ++ ": ".toList ++ reason.toList), false)
  let toPlace (h : Host) (place : Location) : Session × Bool :=
    ({ s with host := h, channels := Session.assoc channel (.file place) s.channels }, true)
  match s.host.place (toHostText path) with
  | .error .notFound => refuse "Directory nonexistent"
  | .error cause => (refuse (String.ofList (Utility.reason cause)))
  | .ok place =>
    match s.host.entry? place with
    | some .sink => ({ s with channels := Session.assoc channel .nothing s.channels }, true)
    | some .directory => refuse "Is a directory"
    | some (.file ..) =>
      if appends then toPlace s.host place
      else
        match s.host.write (toHostText path) [] with
        | .ok h => toPlace h place
        | .error cause => refuse (String.ofList (Utility.reason cause))
    | _ =>
      match s.host.write (toHostText path) [] with
      | .ok h => toPlace h place
      | .error .notFound => refuse "Directory nonexistent"
      | .error cause => refuse (String.ofList (Utility.reason cause))

/-- Makes a redirection, whose target has been expanded. -/
def redirect (s : Session) (r : Redirection) (target : Text) : Session × Bool :=
  match r.kind with
  | .document => (s.openSource r.channel target, true)
  | .output => openFile s r.channel target false
  | .append => openFile s r.channel target true
  | .input =>
    match s.contents target with
    | .ok t => (s.openSource r.channel t, true)
    | .error .isDirectory => (s.openSource r.channel [], true)
    | .error .notFound => (s.complain ("cannot open ".toList ++ target ++ ": No such file".toList), false)
    | .error cause =>
      (s.complain ("cannot open ".toList ++ target ++ ": ".toList ++ Utility.reason cause), false)
  | .duplicate =>
    if target = ['-'] then
      ({ s with channels := s.channels.filter (·.1 != r.channel) }, true)
    else
      match s.channels.lookup (Text.decimalValue target) with
      | some c => ({ s with channels := Session.assoc r.channel c s.channels }, true)
      | none => (s.complain (target ++ ": Bad file descriptor".toList), false)

/-- Makes redirections in order, up to the first that is refused. -/
def redirectAll (output : Session → Text → Session × Text) :
    Session → List Redirection → Session × Bool
  | s, [] => (s, true)
  | s, r :: rest =>
    let (s, ps) := Expansion.single output s r.target
    match redirect s r (Expansion.text ps) with
    | (s, true) => redirectAll output s rest
    | (s, false) => (s.withStatus 2, false)

/-- Gives variables their values in order. -/
def assignAll (output : Session → Text → Session × Text) :
    Session → List (Text × Word) → Session
  | s, [] => s
  | s, (name, w) :: rest =>
    let (s, ps) := Expansion.single output s w
    assignAll output (s.set name (Expansion.text ps)) rest

/-- Whether a word holds the output of a script. -/
def hasOutput (w : Word) : Bool := w.any fun | .output .. => true | _ => false

/-- The arguments of the shell: a script that is given as a text, or one in a file, with the name and
the arguments that it sees. -/
def shellScript (s : Session) : List Text → Except HostFault (Text × Text × List Text)
  | ['-', 'c'] :: script :: rest => .ok (script, rest.headD s.name, rest.tail)
  | ('-' :: _) :: _ => .ok ([], s.name, [])
  | path :: rest => (s.contents path).map fun script => (script, path, rest)
  | [] => .ok (s.input, s.name, [])

/-- How a command is found: under its own name or in a directory for programs. -/
def programPath? (s : Session) (name : Text) : Option Text :=
  if (s.functions.lookup name).isSome || (Builtin.table.lookup name).isSome then some name
  else if (Executable.ofName? name).isSome then
    if ["[", "echo", "false", "printf", "pwd", "test", "true"].any (·.toList = name) then some name
    else some ("/usr/bin/".toList ++ name)
  else none

mutual

/-- Runs commands in order as long as the script goes on. -/
def runAll : (fuel : Nat) → (tested : Bool) → Session → List Command → Session
  | 0, _, s, _ => { s with flow := .exits }
  | _ + 1, _, s, [] => s
  | fuel + 1, tested, s, c :: cs =>
    let s := run fuel tested s c
    if s.flow = .normal then runAll fuel tested s cs else s

/-- Runs a script in a session. A mistake in it ends the session. -/
def runScript : (fuel : Nat) → Session → Text → Session
  | 0, s, _ => { s with flow := .exits }
  | fuel + 1, s, script =>
    let (commands, isWhole) := Command.ofScript script
    let s := runAll fuel false s commands
    if isWhole || s.flow != .normal then s
    else { s.complain "Syntax error".toList with flow := .exits, status := 2 }

/-- What a script writes to standard output in a run of its own. -/
def outputOf : (fuel : Nat) → Session → Text → Session × Text
  | 0, s, _ => (s, [])
  | fuel + 1, s, script =>
    let (child, id) := s.openStream 1
    let child := runScript fuel { child with status := 0 } script
    (s.after child, child.written id)

/-- Runs a script under a name of its own. -/
def runNested : (fuel : Nat) → Session → (name script : Text) → (arguments : List Text) → Session
  | 0, s, _, _, _ => { s with flow := .exits }
  | fuel + 1, s, name, script, arguments =>
    s.after <| runScript fuel
      { s with name, arguments, bindings := [], functions := [], status := 0, strict := false } script

def runProgram : (fuel : Nat) → Session → (program : Text) → (arguments : List Text) → Session
  | 0, s, _, _ => { s with flow := .exits }
  | fuel + 1, s, program, arguments =>
    match Executable.find s.host program with
    | .ok (.script _ script) => runNested fuel s program script arguments
    | .ok (.utility run leading) => run s (leading ++ arguments)
    | .ok .shell =>
      match shellScript s arguments with
      | .ok (script, name, rest) => runNested fuel s name script rest
      | .error _ =>
        (s.warn (program ++ ": 0: cannot open ".toList ++ arguments.headD []
          ++ ": No such file".toList)).withStatus 2
    | .error .notFound => (s.complain (program ++ ": not found".toList)).withStatus 127
    | .error .badFormat => runNested fuel s program ((s.contents program).toOption.getD []) arguments
    | .error cause =>
      (s.complain (program ++ ": ".toList ++ Utility.reason cause)).withStatus 126

def runWords : (fuel : Nat) → Session → (name : Text) → (arguments : List Text) → Session
  | 0, s, _, _ => { s with flow := .exits }
  | fuel + 1, s, name, arguments =>
    match s.functions.lookup name with
    | some body =>
      let inner := run fuel false { s with arguments := arguments, locals := [] } body
      let inner := (inner.restore inner.locals).returned
      { inner with arguments := s.arguments, locals := s.locals }
    | none =>
      match Builtin.table.lookup name with
      | some command => command s arguments
      | none =>
        if name = "eval".toList then runScript fuel s (Text.joinWith [' '] arguments)
        else if name = ['.'] then
          match s.contents (arguments.headD []) with
          | .ok script => (runScript fuel (s.withStatus 0) script).returned
          | .error _ =>
            let complaint := ".: cannot open ".toList ++ arguments.headD [] ++ ": No such file".toList
            { s.complain complaint with flow := .exits, status := 2 }
        else if name = "exec".toList then
          match arguments with
          | [] => s.withStatus 0
          | name :: arguments => { runProgram fuel s name arguments with flow := .exits }
        else if name = "command".toList then
          match arguments with
          | [] => s.withStatus 0
          | ['-', 'v'] :: name :: _ =>
            match programPath? s name with
            | some path => (s.say (path ++ ['\n'])).withStatus 0
            | none => s.withStatus 127
          | name :: arguments => runWords fuel s name arguments
        else if name = "env".toList then
          match arguments.dropWhile (·.contains '=') with
          | [] => s.withStatus 0
          | name :: arguments => runProgram fuel s name arguments
        else runProgram fuel s name arguments

def runSimple : (fuel : Nat) → Session → (assignments : List (Text × Word)) →
    (words : List Word) → List Redirection → Session
  | 0, s, _, _, _ => { s with flow := .exits }
  | fuel + 1, s, assignments, words, redirections =>
    let (s, fields) := Expansion.fields (outputOf fuel) s words
    if s.flow ≠ .normal then s
    else
      match fields with
      | [] =>
        let before := s.channels
        let keeps := words.any hasOutput || assignments.any fun (_, w) => hasOutput w
        match redirectAll (outputOf fuel) s redirections with
        | (s, false) => { s with channels := before }
        | (s, true) =>
          let s := assignAll (outputOf fuel) s assignments
          { s with
            channels := before
            status := if keeps || s.flow != .normal then s.status else 0 }
      | name :: arguments =>
        let before := s.channels
        match redirectAll (outputOf fuel) s redirections with
        | (s, false) => { s with channels := before }
        | (s, true) =>
          let values := assignments.map fun (name, _) => (name, s.lookUp? name)
          let s := assignAll (outputOf fuel) s assignments
          if s.flow ≠ .normal then s
          else
            let after := runWords fuel s name arguments
            let after := after.restore values
            if name = "exec".toList ∧ arguments.isEmpty then after
            else { after with channels := before }

/-- Runs commands whose outputs and inputs are joined. -/
def runPipe : (fuel : Nat) → Session → List Command → Session
  | 0, s, _ => { s with flow := .exits }
  | _ + 1, s, [] => s
  | fuel + 1, s, [c] => s.after (run fuel true s c)
  | fuel + 1, s, c :: cs =>
    let (child, id) := s.openStream 1
    let child := run fuel true child c
    let t := child.written id
    let s := s.after child
    if s.flow ≠ .normal then s
    else
      let inner := runPipe fuel (s.openSource 0 t) cs
      { inner with channels := s.channels }

def runLoop : (fuel : Nat) → (succeeds : Bool) → Session → (test body : Command) →
    (status : Nat) → Session
  | 0, _, s, _, _, _ => { s with flow := .exits }
  | fuel + 1, succeeds, s, test, body, status =>
    let s := run fuel true s test
    if s.flow ≠ .normal then (s.afterRound).1
    else if (s.status == 0) != succeeds then s.withStatus status
    else
      match (run fuel false s body).afterRound with
      | (s, true) => runLoop fuel succeeds s test body s.status
      | (s, false) => s

def runEach : (fuel : Nat) → Session → (name : Text) → (values : List Text) → (body : Command) →
    Session
  | 0, s, _, _, _ => { s with flow := .exits }
  | _ + 1, s, _, [], _ => s
  | fuel + 1, s, name, value :: values, body =>
    match (run fuel false (s.set name value) body).afterRound with
    | (s, true) => runEach fuel s name values body
    | (s, false) => s

/-- Runs the first arm of a choice that the subject fits. -/
def runChoice : (fuel : Nat) → (tested : Bool) → Session → (subject : Text) →
    List (List Word × Command) → Session
  | 0, _, s, _, _ => { s with flow := .exits }
  | _ + 1, _, s, _, [] => s.withStatus 0
  | fuel + 1, tested, s, subject, ([], _) :: arms => runChoice fuel tested s subject arms
  | fuel + 1, tested, s, subject, (w :: ws, body) :: arms =>
    let (s, ps) := Expansion.single (outputOf fuel) s w
    if s.flow ≠ .normal then s
    else if Glob.isMatch (Glob.parts (Expansion.signs ps)) subject then
      run fuel tested (s.withStatus 0) body
    else runChoice fuel tested s subject ((ws, body) :: arms)

/-- Runs a command. A command is `tested` where its status decides what is run next. -/
def run : (fuel : Nat) → (tested : Bool) → Session → Command → Session
  | 0, _, s, _ => { s with flow := .exits }
  | fuel + 1, tested, s, c =>
    match c with
    | .simple line assignments words redirections =>
      let s := { s with line := if line = 0 then s.line else line }
      (runSimple fuel s assignments words redirections).checked tested
    | .pipeline negated parts =>
      let after :=
        match parts with
        | [c] => run fuel true s c
        | parts => runPipe fuel s parts
      if negated then
        if after.flow = .normal then after.withStatus (if after.status = 0 then 1 else 0) else after
      else after.checked tested
    | .both first second =>
      let s := run fuel true s first
      if s.flow = .normal ∧ s.status = 0 then run fuel tested s second else s
    | .either first second =>
      let s := run fuel true s first
      if s.flow = .normal ∧ s.status ≠ 0 then run fuel tested s second else s
    | .sequence parts => runAll fuel tested (if parts.isEmpty then s.withStatus 0 else s) parts
    | .subshell body => (s.after (run fuel tested s body)).checked tested
    | .conditional test body otherwise =>
      let s := run fuel true s test
      if s.flow ≠ .normal then s
      else if s.status = 0 then run fuel tested s body
      else run fuel tested s otherwise
    | .loop succeeds test body => runLoop fuel succeeds s test body 0
    | .forEach name words body =>
      match words with
      | none => runEach fuel (s.withStatus 0) name s.arguments body
      | some words =>
        let (s, values) := Expansion.fields (outputOf fuel) s words
        if s.flow ≠ .normal then s else runEach fuel (s.withStatus 0) name values body
    | .choice subject arms =>
      let (s, ps) := Expansion.single (outputOf fuel) s subject
      if s.flow ≠ .normal then s else runChoice fuel tested s (Expansion.text ps) arms
    | .definition name body => { s with functions := Session.assoc name body s.functions, status := 0 }
    | .redirected body redirections =>
      let before := s.channels
      match redirectAll (outputOf fuel) s redirections with
      | (s, false) => ({ s with channels := before }).checked tested
      | (s, true) => { run fuel tested s body with channels := before }

end

end Pseudocode.Shell
