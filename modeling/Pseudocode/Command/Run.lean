import Pseudocode.Command.Arguments
import Pseudocode.Command.Launch
import Pseudocode.Conversion
import Pseudocode.Outline.Listing

/-!
# The command line

An invocation is carried out in four steps: the settings are read, then the rules, then the file to
convert, and then the task changes the host or shows a text. A step that fails ends the program with
status 1 and one sentence.
-/

namespace Pseudocode

/-- The converter of settings, with the rules that they name. -/
def Converter.ofSettings (h : Host) (s : Settings) : Except RulebookFault Converter :=
  (s.rulebook h).map fun book => ⟨book, s.defaultClass, s.indent⟩

def Converter.convertFile (c : Converter) (h : Host) (path : Text) :
    Except FileFault Conversion :=
  match h.text path with
  | .ok t => .ok (c.convert t)
  | .error cause => .error ⟨path, cause⟩

namespace Command

/-- What the program leaves behind. -/
structure Outcome where
  host : Host
  output : Text
  errors : Text
  status : Nat

/-- Lines as a text, each with a line feed. -/
def unlines (lines : List Text) : Text := lines.flatMap (· ++ ['\n'])

/-- The outcome of a task that shows a text. -/
def Outcome.shown (h : Host) (output : Text) : Outcome := ⟨h, output, [], 0⟩

def Outcome.failed (h : Host) (sentence : Text) : Outcome :=
  ⟨h, [], "Error: ".toList ++ sentence, 1⟩

/-- What the readers of settings, rule documents and patterns say of what they refuse, where that is
known. -/
structure Wording where
  settings : SettingsFault → Option Text
  document : Option Text
  pattern : Text → Option Text

def Wording.unknown : Wording := ⟨fun _ => none, none, fun _ => none⟩

/-- The rest of a line that ends in the words of a reader. Without them the report stops. -/
def lastWords : Option Text → Text
  | some words => words ++ ['\n']
  | none => []

/-- The sentence that reports missing rules. -/
def rulesSentence (w : Wording) (fault : RulebookFault) : Text :=
  fault.message ++ match fault with
    | .malformed => lastWords w.document
    | .refused (.badPattern _ pattern) => lastWords (w.pattern pattern)
    | _ => ['\n']

/-- What is written about missing settings. -/
def settingsReport (w : Wording) (fault : SettingsFault) : Text :=
  "Error loading configuration: ".toList ++ lastWords (w.settings fault)

def Format.render (c : Conversion) : Format → Text
  | .java => c.program.display
  | .units => c.program.units.flatMap fun unit =>
      "// ===== ".toList ++ unit.fileName ++ " =====\n".toList ++ unit.source
  | .model => c.outline.listing ++ ['\n']

def runProgram (start : Starter) (s : Settings) (c : Conversion) (h : Host) (input : List UInt8) :
    Outcome :=
  match launch start s c.program h input with
  | (h, .fault fault) => .failed h (fault.message ++ ['\n'])
  | (h, .notBuilt diagnostics) => ⟨h, [], diagnostics, 1⟩
  | (h, .ran output errors status) => ⟨h, unlines output, unlines errors, status.getD 1⟩

/-- Writes a conversion into a directory. -/
def emitProgram (c : Conversion) (h : Host) (directory : Text) : Outcome :=
  match c.program.emit h directory with
  | (h, .error fault) => .failed h (fault.message ++ ['\n'])
  | (h, .ok written) => .shown h (unlines written)

/-- Goes on with the conversion of a file. -/
def withConversion (c : Converter) (h : Host) (path : Text) (next : Conversion → Outcome) : Outcome :=
  match c.convertFile h path with
  | .error fault => .failed h (fault.message ++ ['\n'])
  | .ok conversion => next conversion

def doTask (start : Starter) (s : Settings) (c : Converter) (h : Host) (input : List UInt8) :
    Task → Outcome
  | .convert path format => withConversion c h path fun conversion =>
      .shown h (format.render conversion)
  | .emit path directory => withConversion c h path fun conversion =>
      emitProgram conversion h directory
  | .run path => withConversion c h path fun conversion => runProgram start s conversion h input
  | .listRules => .shown h (unlines c.book.listing)

/-- The file of settings that is read without being asked for. -/
def projectFile : Text := "nova.toml".toList

/-- The settings of an invocation: the project's file if there is one, then the file that is asked
for, then the rule file that is asked for. -/
def settings (h : Host) (i : Invocation) : Except SettingsFault Settings :=
  Settings.load h
    (⟨projectFile, false⟩ :: (i.settings.map fun path => ⟨path, true⟩).toList)
    (i.rules.map fun path => ("rules.path".toList, .string path)).toList

/-- Carries out an invocation. -/
def invoke (w : Wording) (start : Starter) (h : Host) (input : List UInt8) (i : Invocation) :
    Outcome :=
  match settings h i with
  | .error fault => ⟨h, [], settingsReport w fault, 1⟩
  | .ok s =>
    match Converter.ofSettings h s with
    | .error fault => .failed h (rulesSentence w fault)
    | .ok c => doTask start s c h input i.task

def versionLine : Text := "nova 0.1.0\n".toList

/-- Answers arguments. Refused arguments end the program with status 2. -/
def runWith (w : Wording) (start : Starter) (h : Host) (arguments : List Text)
    (input : List UInt8) : Outcome :=
  match Request.ofArguments arguments with
  | .refused => ⟨h, [], [], 2⟩
  | .help => .shown h []
  | .version => .shown h versionLine
  | .invoke i => invoke w start h input i

def run (start : Starter) (h : Host) (arguments : List Text) (input : List UInt8) : Outcome :=
  runWith .unknown start h arguments input

end Command
end Pseudocode
