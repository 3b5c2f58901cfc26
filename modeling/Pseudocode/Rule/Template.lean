import Pseudocode.Text.Basic

/-!
# Templates

A template is a text with slots, each written `%s`, that arguments fill from left to right. What is
filled in is never searched for slots again.
-/

namespace Pseudocode.Template

def slotCount : Text → Nat
  | [] => 0
  | '%' :: 's' :: rest => slotCount rest + 1
  | _ :: rest => slotCount rest

/-- The template with its slots filled in order. A slot without an argument is left empty and
surplus arguments are ignored. -/
def fill : (template : Text) → (args : List Text) → Text
  | [], _ => []
  | '%' :: 's' :: rest, args => args.headD [] ++ fill rest args.tail
  | c :: rest, args => c :: fill rest args

/-- The parts of a template between its slots. -/
def pieces : Text → List Text
  | [] => [[]]
  | '%' :: 's' :: rest => [] :: pieces rest
  | c :: rest =>
    match pieces rest with
    | [] => [[c]]
    | piece :: more => (c :: piece) :: more

end Pseudocode.Template
