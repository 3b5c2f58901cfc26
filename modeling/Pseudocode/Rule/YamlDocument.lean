import Pseudocode.Rule.JsonDocument
import Pseudocode.Yaml.Node

/-!
# Rule documents in YAML

A document is a sequence of rules, and an empty one has none. A rule is a mapping with the keys
`keyword`, `patterns` and `template`, each once, and any others, which are ignored. Every scalar is
taken as the text that is written, numbers and truth values included.
-/

namespace Pseudocode

def Yaml.Node.text? : Yaml.Node → Option Text
  | .scalar text _ => some text
  | _ => none

/-- The items of a sequence, of which there are none where nothing is written. -/
def Yaml.Node.items? : Yaml.Node → Option (List Yaml.Node)
  | .sequence items => some items
  | .scalar [] true => some []
  | _ => none

namespace WrittenRule

/-- The member of a rule that a key and its value write. -/
def yamlMember? (key value : Yaml.Node) : Option RuleMember := do
  let name ← key.text?
  if name = "keyword".toList then (value.text?).map .keyword
  else if name = "patterns".toList then do
    let items ← value.items?
    return .patterns (← items.mapM (·.text?))
  else if name = "template".toList then (value.text?).map .template
  else return .other

def yaml? : Yaml.Node → Option WrittenRule
  | .mapping entries => do
    let members ← entries.mapM fun (key, value) => yamlMember? key value
    RuleMember.rule? members
  | _ => none

def listOfYaml? (t : Text) : Option (List WrittenRule) := do
  match ← Yaml.Document.ofText? t with
  | .blank => return []
  | .node n => (← n.items?).mapM yaml?

end WrittenRule
end Pseudocode
