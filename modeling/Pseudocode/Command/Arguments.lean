import Pseudocode.Text.Basic

/-!
# Arguments

The arguments of the command line. A task is named first, and what belongs to it follows; options
with a value are long or short, and the value stands in the same argument or in the next one. Two
options may be given before the task or after it, and then the later place wins.
-/

namespace Pseudocode.Command

/-- How a conversion is shown. -/
inductive Format where
  | java
  | units
  | model
deriving DecidableEq

/-- What the program is asked to do. -/
inductive Task where
  /-- Show the conversion of a file. -/
  | convert (path : Text) (format : Format)
  /-- Write the conversion of a file into a directory. -/
  | emit (path directory : Text)
  /-- Compile and run the conversion of a file. -/
  | run (path : Text)
  /-- List the rules. -/
  | listRules
deriving DecidableEq

/-- A task, with a file of settings and a file of rules if they are given. -/
structure Invocation where
  settings : Option Text
  rules : Option Text
  task : Task
deriving DecidableEq

/-- What arguments ask for. -/
inductive Request where
  | help
  | version
  | refused
  | invoke (invocation : Invocation)
deriving DecidableEq

/-- The options that have a value. -/
inductive OptionName where
  | config
  | rules
  | format
  | out
deriving DecidableEq

namespace OptionName

/-- The name after two hyphens. -/
def long : OptionName → Text
  | config => "config".toList
  | rules => "rules".toList
  | format => "format".toList
  | out => "out".toList

def letter : OptionName → Char
  | config => 'c'
  | rules => 'r'
  | format => 'f'
  | out => 'o'

end OptionName

inductive TaskName where
  | convert
  | emit
  | run
  | listRules
deriving DecidableEq

namespace TaskName

def word : TaskName → Text
  | convert => "convert".toList
  | emit => "emit".toList
  | run => "run".toList
  | listRules => "list-rules".toList

def list : List TaskName := [convert, emit, run, listRules]

def ofWord? (word : Text) : Option TaskName := list.find? (·.word = word)

def options : TaskName → List OptionName
  | convert => [.config, .rules, .format]
  | emit => [.config, .rules, .out]
  | run => [.config, .rules]
  | listRules => [.config, .rules]

/-- Whether a kind of tasks takes the path of a file. -/
def takesPath (t : TaskName) : Bool := t != .listRules

end TaskName

/-- An argument by its form. -/
inductive Argument where
  /-- After two hyphens alone there are no options. -/
  | stop
  | long (name : Text) (value : Option Text)
  | short (letters : Text)
  | plain (t : Text)
deriving DecidableEq

/-- The form of an argument; a single hyphen is no option. -/
def Argument.ofText : Text → Argument
  | ['-', '-'] => .stop
  | '-' :: '-' :: rest =>
    match rest.span (· != '=') with
    | (name, _ :: value) => .long name (some value)
    | (name, []) => .long name none
  | '-' :: c :: rest => .short (c :: rest)
  | t => .plain t

/-- What an argument in the form of an option asks for: an option, with its value if it holds one, or
one of the texts about the program. -/
inductive Wish where
  | set (option : OptionName) (value : Option Text)
  | help
  | version
deriving DecidableEq

/-- What an argument asks for where the given options are known. -/
def Argument.wish? (options : List OptionName) (hasVersion : Bool) : Argument → Option Wish
  | .long name value =>
    match options.find? (·.long = name) with
    | some option => some (.set option value)
    | none =>
      if value.isSome then none
      else if name = "help".toList then some .help
      else if name = "version".toList ∧ hasVersion then some .version
      else none
  | .short (c :: rest) =>
    match options.find? (·.letter = c) with
    | some option =>
      some <| .set option <|
        match rest with
        | [] => none
        | '=' :: value => some value
        | value => some value
    | none =>
      if c = 'h' then some .help else if c = 'V' ∧ hasVersion then some .version else none
  | _ => none

/-- The values that are accepted for an option. -/
def OptionName.accepts (option : OptionName) (value : Text) : Bool :=
  option != .format || ["java", "units", "model"].any (·.toList = value)

/-- The options and the path that have been read at one place. -/
structure Given where
  options : List (OptionName × Text)
  path : Option Text
deriving DecidableEq

namespace Given

/-- Nothing has been read. -/
def nothing : Given := ⟨[], none⟩

/-- Takes note of an option, unless it has been given before or does not accept the value. -/
def set? (g : Given) (option : OptionName) (value : Text) : Option Given :=
  if (g.options.lookup option).isSome ∨ !option.accepts value then none
  else some { g with options := (option, value) :: g.options }

/-- Takes note of a path, unless there is one already. -/
def setPath? (g : Given) (path : Text) : Option Given :=
  match g.path with
  | some _ => none
  | none => some { g with path := some path }

end Given

/-- Reads the arguments after the name of a task, or what is asked for instead. After `stop` all
arguments are paths. -/
def readTask (t : TaskName) : (stopped : Bool) → Given → List Text → Except Request Given
  | _, g, [] => .ok g
  | stopped, g, arg :: rest =>
    let path (stopped : Bool) : Except Request Given :=
      match if t.takesPath then g.setPath? arg else none with
      | some g => readTask t stopped g rest
      | none => .error .refused
    if stopped then path true
    else
      match Argument.ofText arg with
      | .stop => readTask t true g rest
      | .plain _ => path false
      | other =>
        match other.wish? t.options false with
        | none => .error .refused
        | some .help => .error .help
        | some .version => .error .version
        | some (.set option (some value)) =>
          match g.set? option value with
          | some g => readTask t false g rest
          | none => .error .refused
        | some (.set option none) =>
          match rest with
          | [] => .error .refused
          | value :: rest =>
            match Argument.ofText value with
            | .plain value =>
              match g.set? option value with
              | some g => readTask t false g rest
              | none => .error .refused
            | _ => .error .refused

/-- The invocation that the arguments make: `outer` was given before the name of the task and
`inner` after it. -/
def invocation? (t : TaskName) (outer inner : Given) : Option Invocation := do
  let task : Task ←
    match t with
    | .convert =>
      inner.path.map fun path =>
        .convert path <|
          match inner.options.lookup .format with
          | some ['u', 'n', 'i', 't', 's'] => .units
          | some ['m', 'o', 'd', 'e', 'l'] => .model
          | _ => .java
    | .emit => do
      let path ← inner.path
      let directory ← inner.options.lookup .out
      pure (.emit path directory)
    | .run => inner.path.map .run
    | .listRules => some .listRules
  let option (name : OptionName) : Option Text :=
    (inner.options.lookup name).or (outer.options.lookup name)
  return ⟨option .config, option .rules, task⟩

/-- Reads arguments up to the name of a task, and then those of the task. -/
def readFrom (g : Given) : List Text → Request
  | [] => .refused
  | arg :: rest =>
    match Argument.ofText arg with
    | .stop => .refused
    | .plain word =>
      if word = "help".toList then .help
      else
        match TaskName.ofWord? word with
        | none => .refused
        | some t =>
          match readTask t false .nothing rest with
          | .error request => request
          | .ok inner =>
            match invocation? t g inner with
            | some invocation => .invoke invocation
            | none => .refused
    | other =>
      match other.wish? [.config, .rules] true with
      | none => .refused
      | some .help => .help
      | some .version => .version
      | some (.set option (some value)) =>
        match g.set? option value with
        | some g => readFrom g rest
        | none => .refused
      | some (.set option none) =>
        match rest with
        | [] => .refused
        | value :: rest =>
          match Argument.ofText value with
          | .plain value =>
            match g.set? option value with
            | some g => readFrom g rest
            | none => .refused
          | _ => .refused

/-- What arguments ask for. -/
def Request.ofArguments (arguments : List Text) : Request := readFrom .nothing arguments

end Pseudocode.Command
