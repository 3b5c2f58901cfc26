import Pseudocode.Shell.Utility

/-!
# Executables

What the host does with a file that is started as a program: a script names the program that reads
it in its first line.
-/

namespace Pseudocode.Shell

/-- A file that can be started. -/
inductive Executable where
  /-- A script for the shell, and the switches that its first line sets. -/
  | script (switches : List Text) (text : Text)
  /-- A utility, with arguments that come before those of the call. -/
  | utility (run : Utility) (leading : List Text)
  /-- The shell itself. -/
  | shell

namespace Executable

/-- The directories where programs are looked for by name. -/
def searchPath : List Location :=
  [["usr".toList, "local".toList, "bin".toList], ["usr".toList, "bin".toList], ["bin".toList]]

def shellNames : List Text := ["sh".toList, "dash".toList, "bash".toList]

def systemFiles : List (Location × Entry) :=
  let usr := "usr".toList
  let bin := "bin".toList
  let names := shellNames ++ ["env".toList] ++ Utility.table.map (·.1)
  [(["dev".toList], .directory), (["dev".toList, "null".toList], .sink), ([bin], .directory),
    ([usr], .directory), ([usr, bin], .directory)]
    ++ names.map (fun name => ([bin, name], Entry.utility))
    ++ names.map (fun name => ([usr, bin, name], Entry.utility))

/-- The executable of a program of the system. -/
def ofName? (name : Text) : Option Executable :=
  if shellNames.contains name then some .shell
  else (Utility.table.lookup name).map (.utility · [])

/-- The program that the first line of a script names, and its argument. -/
def interpreter? (script : Text) : Option (Text × List Text) :=
  match script with
  | '#' :: '!' :: rest =>
    let isBlank (c : Char) : Bool := c == ' ' || c == '\t'
    let line := Text.dropEndWhile isBlank ((rest.takeWhile (· != '\n')).dropWhile isBlank)
    let (path, argument) := line.span (!isBlank ·)
    let argument := argument.dropWhile isBlank
    if path.isEmpty then none else some (path, if argument.isEmpty then [] else [argument])
  | _ => none

/-- The executable at a place, which was found under a path. -/
def atPlace (h : Host) (place : Location) (path : Text) : Except HostFault Executable :=
  match h.entry? place with
  | none => .error .notFound
  | some .utility =>
    match ofName? (place.getLastD []) with
    | some e => .ok e
    | none => .error .notFound
  | some (.file bytes true) =>
    let script := ofBytes bytes
    match interpreter? script with
    | none => .error .badFormat
    | some (program, argument) =>
      match h.entryAt? (toHostText program) with
      | some .utility =>
        let name := (Path.parts program).getLastD []
        let (name, argument) := if name = "env".toList then (argument.headD [], []) else (name, argument)
        match ofName? name with
        | some .shell => .ok (.script argument script)
        | some (.utility run _) => .ok (.utility run (argument ++ [path]))
        | _ => .error .notFound
      | _ => .error .notFound
  | some _ => .error .permissionDenied

/-- The executable of a program: at the place where a path with a slash leads, or under a name in
the directories for programs. The path is given as bytes. -/
def find (h : Host) (program : Text) : Except HostFault Executable :=
  let path := toHostText program
  if path.contains '/' then do atPlace h (← h.place path) program
  else if path.isEmpty then .error .notFound
  else
    match searchPath.find? fun directory => (h.entry? (directory ++ [path])).isSome with
    | some directory => atPlace h (directory ++ [path]) program
    | none => .error .notFound

end Executable
end Pseudocode.Shell
