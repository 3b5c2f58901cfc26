import Pseudocode.Json.Reader
import Pseudocode.Rule.Basic

/-!
# Rule documents in JSON

A document is an array of rules. A rule is an object with the members `keyword`, `patterns` and
`template`, each once, and any others, which are ignored; or an array of the three values.
-/

namespace Pseudocode

/-- A member of the object that writes a rule. -/
inductive RuleMember where
  | keyword (text : Text)
  | patterns (texts : List Text)
  | template (text : Text)
  | other

namespace RuleMember

def keywords (members : List RuleMember) : List Text :=
  members.filterMap fun | keyword t => some t | _ => none

def patternLists (members : List RuleMember) : List (List Text) :=
  members.filterMap fun | patterns ts => some ts | _ => none

def templates (members : List RuleMember) : List Text :=
  members.filterMap fun | template t => some t | _ => none

/-- The rule of an object with the given members: each that counts stands exactly once. -/
def rule? (members : List RuleMember) : Option WrittenRule :=
  match keywords members, patternLists members, templates members with
  | [word], [texts], [text] => some ⟨word, texts, text⟩
  | _, _, _ => none

end RuleMember

namespace WrittenRule

/-- Reads one member of the object that writes a rule in JSON. -/
def jsonMember? (t : Text) : Option (RuleMember × Text) := do
  let (name, rest) ← Json.string? t
  let rest ← Json.sign? ':' rest
  if name = "keyword".toList then
    (Json.string? rest).map fun (text, rest) => (.keyword text, rest)
  else if name = "patterns".toList then
    (Json.strings? rest).map fun (texts, rest) => (.patterns texts, rest)
  else if name = "template".toList then
    (Json.string? rest).map fun (text, rest) => (.template text, rest)
  else (Json.skipValue? rest).map fun rest => (.other, rest)

/-- Reads the three values of a rule in an array, after the sign that opens it. -/
def jsonTriple? (t : Text) : Option (WrittenRule × Text) := do
  let (keyword, rest) ← Json.string? t
  let (patterns, rest) ← Json.strings? (← Json.sign? ',' rest)
  let (template, rest) ← Json.string? (← Json.sign? ',' rest)
  let rest ← Json.sign? ']' rest
  return (⟨keyword, patterns, template⟩, rest)

/-- Reads a rule in JSON. -/
def json? (t : Text) : Option (WrittenRule × Text) :=
  match Json.sign? '[' t with
  | some rest => jsonTriple? rest
  | none => do
    let (members, rest) ← Json.collection? '\x7b' '\x7d' jsonMember? t
    let rule ← RuleMember.rule? members
    return (rule, rest)

def listOfJson? (t : Text) : Option (List WrittenRule) := do
  let (rules, rest) ← Json.collection? '[' ']' json? t
  if rest.isEmpty then some rules else none

end WrittenRule
end Pseudocode
