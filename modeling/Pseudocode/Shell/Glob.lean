import Pseudocode.Host.Files
import Pseudocode.Shell.Word

/-!
# Globs

Patterns of shell scripts for texts and for paths. A quoted character always stands for itself.
-/

namespace Pseudocode.Shell

/-- A character, and whether it was quoted. -/
abbrev Sign := Char × Bool

inductive Glob.Part where
  | exactly (c : Char)
  | any
  | many
  | oneOf (negated : Bool) (ranges : List (Char × Char))
deriving DecidableEq

namespace Glob

/-- The ranges of a bracket, and what follows it. -/
def ranges? : (isFirst : Bool) → List Sign → Option (List (Char × Char) × List Sign)
  | _, [] => none
  | isFirst, (']', false) :: rest =>
    if isFirst then (ranges? false rest).map fun (rs, rest) => ((']', ']') :: rs, rest)
    else some ([], rest)
  | _, (lo, _) :: ('-', false) :: (hi, q) :: rest =>
    if hi = ']' ∧ !q then some ([(lo, lo), ('-', '-')], rest)
    else (ranges? false rest).map fun (rs, rest) => ((lo, hi) :: rs, rest)
  | _, (c, _) :: rest => (ranges? false rest).map fun (rs, rest) => ((c, c) :: rs, rest)

/-- A bracket and what follows it. -/
def bracket? : List Sign → Option (Part × List Sign)
  | (c, q) :: rest =>
    if (c = '!' ∨ c = '^') ∧ !q then (ranges? true rest).map fun (rs, rest) => (.oneOf true rs, rest)
    else (ranges? true ((c, q) :: rest)).map fun (rs, rest) => (.oneOf false rs, rest)
  | [] => none

def partsFrom : (fuel : Nat) → List Sign → List Part
  | 0, _ => []
  | _ + 1, [] => []
  | fuel + 1, (c, quoted) :: rest =>
    if quoted then .exactly c :: partsFrom fuel rest
    else if c = '*' then .many :: partsFrom fuel rest
    else if c = '?' then .any :: partsFrom fuel rest
    else if c = '[' then
      match bracket? rest with
      | some (part, rest) => part :: partsFrom fuel rest
      | none => .exactly c :: partsFrom fuel rest
    else .exactly c :: partsFrom fuel rest

def parts (signs : List Sign) : List Part := partsFrom (signs.length + 1) signs

def Part.accepts (c : Char) : Part → Bool
  | exactly d => c == d
  | any => true
  | many => true
  | oneOf negated ranges => ranges.any (fun (lo, hi) => lo ≤ c && c ≤ hi) != negated

def isMatch : List Part → Text → Bool
  | [], t => t.isEmpty
  | .many :: parts, [] => isMatch parts []
  | .many :: parts, c :: t => isMatch parts (c :: t) || isMatch (.many :: parts) t
  | _ :: _, [] => false
  | part :: parts, c :: t => part.accepts c && isMatch parts t
termination_by parts t => parts.length + t.length

/-- Whether signs make a glob that is not a plain text. -/
def isGlob (signs : List Sign) : Bool := (parts signs).any fun | .exactly _ => false | _ => true

/-- The plain text of signs. -/
def plain (signs : List Sign) : Text := signs.map (·.1)

def cutAtSlashes : List Sign → List (List Sign)
  | [] => [[]]
  | (c, q) :: rest =>
    if c = '/' then [] :: cutAtSlashes rest
    else match cutAtSlashes rest with
      | part :: parts => ((c, q) :: part) :: parts
      | [] => [[(c, q)]]

/-- The names in the directory that a path leads to, sorted. -/
def namesIn (h : Host) (path : Text) : List Text :=
  match h.place (if path.isEmpty then ['.'] else toHostText path) with
  | .error _ => []
  | .ok place =>
    let names := h.entries.filterMap fun (p, _) =>
      if p.dropLast = place ∧ p.length = place.length + 1 then p.getLast?.map ofHostText else none
    names.mergeSort Text.notAfter

/-- The paths that a glob stands for, below the given ones. -/
def pathsBelow (h : Host) : (stems : List Text) → List (List Sign) → List Text
  | stems, [] => stems
  | stems, part :: parts =>
    let slash := if parts.isEmpty then [] else ['/']
    let stems :=
      if isGlob part then
        let hidden := (part.head?.map (·.1)) = some '.'
        stems.flatMap fun stem =>
          let names := (namesIn h stem).filter fun name =>
            (hidden || name.head? != some '.') && isMatch (Glob.parts part) name
          names.map fun name => stem ++ name ++ slash
      else stems.map fun stem => stem ++ plain part ++ slash
    pathsBelow h stems parts

/-- The paths that signs stand for; a glob that stands for none is taken as it is written. -/
def paths (h : Host) (signs : List Sign) : List Text :=
  if isGlob signs then
    let found := (pathsBelow h [[]] (cutAtSlashes signs)).filter fun path => (h.entryAt? (toHostText path)).isSome
    if found.isEmpty then [plain signs] else found
  else [plain signs]

end Glob
end Pseudocode.Shell
