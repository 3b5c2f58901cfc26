import Pseudocode.Host.Files
import Pseudocode.Rule.JsonDocument
import Pseudocode.Rule.YamlDocument

/-!
# Rule documents

A rulebook is read from a document in two steps: the document gives written rules, and these are
compiled in order. A rule file is read as YAML if its name says so, and as JSON otherwise.
-/

namespace Pseudocode

/-- Why there is no rulebook. -/
inductive RulebookFault where
  | unreadable (path : Text) (cause : HostFault)
  /-- The document is not a list of rules. -/
  | malformed
  | refused (fault : RuleFault)
deriving DecidableEq

/-- The sentence that reports a missing rulebook. What is wrong with a document is for its reader to
say, after the last words. -/
def RulebookFault.message : RulebookFault → Text
  | unreadable path cause =>
    "Cannot read rules from '".toList ++ path ++ "': ".toList ++ cause.message
  | malformed => "Malformed rule set: ".toList
  | refused fault => fault.message

namespace Rulebook

/-- The rulebook of the rules that a document gave. -/
def ofDocument (written : Option (List WrittenRule)) : Except RulebookFault Rulebook :=
  match written with
  | none => .error .malformed
  | some rules =>
    match ofWritten rules with
    | .ok book => .ok book
    | .error fault => .error (.refused fault)

def ofJson (t : Text) : Except RulebookFault Rulebook := ofDocument (WrittenRule.listOfJson? t)

def ofYaml (t : Text) : Except RulebookFault Rulebook := ofDocument (WrittenRule.listOfYaml? t)

def yamlExtensions : List Text := ["yaml".toList, "yml".toList]

/-- The rulebook in the file that a path leads to. -/
def load (h : Host) (path : Text) : Except RulebookFault Rulebook :=
  match h.text path with
  | .error cause => .error (.unreadable path cause)
  | .ok t => if Path.hasExtension path yamlExtensions then ofYaml t else ofJson t

end Rulebook
end Pseudocode
