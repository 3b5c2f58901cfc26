import Pseudocode.Text.Basic

/-!
# YAML tokens

The tokens of a YAML text. Indentation shows in the tokens as the starts and ends of block
collections.
-/

namespace Pseudocode.Yaml

inductive Token where
  | version (major minor : Nat)
  | tagDirective (handle : Text)
  | documentStart
  | documentEnd
  | blockSequenceStart
  | blockMappingStart
  | blockEnd
  | flowSequenceStart
  | flowSequenceEnd
  | flowMappingStart
  | flowMappingEnd
  | blockEntry
  | flowEntry
  | key
  | value
  | alias (name : Text)
  | anchor (name : Text)
  | tag (handle : Text)
  /-- A scalar with its text; `plain` if it stands without quotes and in no block. -/
  | scalar (text : Text) (plain : Bool)
deriving DecidableEq

end Pseudocode.Yaml
