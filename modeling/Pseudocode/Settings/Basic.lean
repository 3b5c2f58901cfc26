import Pseudocode.Rule.Document
import Pseudocode.Rule.Standard
import Pseudocode.Settings.Key
import Pseudocode.Toml.Reader

/-!
# Settings

Settings come in layers: the standard ones, then files in order, then single keys. Later layers win
key by key.
-/

namespace Pseudocode

/-- All settings. -/
structure Settings where
  rulesPath : Text
  defaultClass : Text
  indent : Text
  workDirectory : Text
  compiler : Text
  runtime : Text
deriving DecidableEq

/-- Why there are no settings. -/
inductive SettingsFault where
  /-- A key cannot be read. -/
  | badKey
  /-- A file that must be there is missing or is no text. -/
  | unreadable
  /-- A file is not in TOML. -/
  | badDocument
  /-- A collection stands where a text is wanted. -/
  | notText
  /-- A section is no table, or lacks a setting. -/
  | badSection
deriving DecidableEq

namespace Settings

open Toml (Value)

/-- The standard settings. -/
def standard : Settings where
  rulesPath := []
  defaultClass := "Main".toList
  indent := "    ".toList
  workDirectory := "nova-build".toList
  compiler := "javac".toList
  runtime := "java".toList

def toTable (s : Settings) : Table := [
  ("rules".toList, .table [("path".toList, .string s.rulesPath)]),
  ("generation".toList, .table [
    ("default_class".toList, .string s.defaultClass), ("indent".toList, .string s.indent)]),
  ("build".toList, .table [
    ("work_dir".toList, .string s.workDirectory), ("compiler".toList, .string s.compiler),
    ("runtime".toList, .string s.runtime)])]

def textOf : Value → Except SettingsFault Text
  | .string t => .ok t
  | .integer n => .ok (toString n).toList
  | .boolean b => .ok (if b then "true" else "false").toList
  | .float shown => .ok shown
  | .date shown => .ok shown
  | .array _ => .error .notText
  | .table _ => .error .notText

/-- The texts of the named settings of a section: those of a table by name, and those of an array by
position. -/
def sectionTexts (names : List Text) (v : Value) : Except SettingsFault (List Text) :=
  let present (v? : Option Value) : Except SettingsFault Text :=
    match v? with
    | some v => textOf v
    | none => .error .badSection
  match v with
  | .table entries => names.mapM fun name => present (entries.lookup name)
  | .array items => names.zipIdx.mapM fun (_, i) => present items[i]?
  | _ => .error .badSection

def ofTable (t : Table) : Except SettingsFault Settings := do
  let texts (name : Text) (names : List Text) : Except SettingsFault (List Text) :=
    sectionTexts names ((t.lookup name).getD Table.unset)
  let rules ← texts "rules".toList ["path".toList]
  let generation ← texts "generation".toList ["default_class".toList, "indent".toList]
  let build ← texts "build".toList ["work_dir".toList, "compiler".toList, "runtime".toList]
  match rules, generation, build with
  | [rulesPath], [defaultClass, indent], [workDirectory, compiler, runtime] =>
    return { rulesPath, defaultClass, indent, workDirectory, compiler, runtime }
  | _, _, _ => .error .badSection

/-- A file of settings. -/
structure Layer where
  path : Text
  /-- Whether the file must be there. -/
  required : Bool
deriving DecidableEq

/-- The path of the file that a layer names: as it is written, or with the extension of TOML files
appended. -/
def filePath? (h : Host) (path : Text) : Option Text :=
  if h.isFile path then some path
  else
    match Path.withExtension? path "toml".toList with
    | some path => if h.isFile path then some path else none
    | none => none

/-- The text of the file that a layer names, if there is one. -/
def layerText? (h : Host) (layer : Layer) : Option Text :=
  (filePath? h layer.path).bind fun path => (h.text path).toOption

/-- The table after a layer. -/
def addLayer (read? : Text → Option Table) (h : Host) (t : Table) (layer : Layer) :
    Except SettingsFault Table :=
  match layerText? h layer with
  | none => if layer.required then .error .unreadable else .ok t
  | some text =>
    match read? text with
    | none => .error .badDocument
    | some entries => .ok (t.layer entries)

/-- The settings of files, whose documents are read with `read?`, and of single keys, which are set
after all files. -/
def loadWith (read? : Text → Option Table) (h : Host) (layers : List Layer)
    (overrides : List (Text × Value)) : Except SettingsFault Settings := do
  let keys ← overrides.mapM fun (name, v) =>
    match Key.read? name with
    | some key => .ok (key, v)
    | none => .error .badKey
  let t ← layers.foldlM (addLayer read? h) (Table.layer standard.toTable [])
  ofTable (keys.foldl (fun t (key, v) => t.set key v) t)

def load (h : Host) (layers : List Layer) (overrides : List (Text × Value)) :
    Except SettingsFault Settings :=
  loadWith Toml.read? h layers overrides

def ruleFile? (s : Settings) : Option Text :=
  let path := Text.trim s.rulesPath
  if path.isEmpty then none else some path

def rulebook (h : Host) (s : Settings) : Except RulebookFault Rulebook :=
  match s.ruleFile? with
  | some path => Rulebook.load h path
  | none => .ok .standard

end Settings
end Pseudocode
