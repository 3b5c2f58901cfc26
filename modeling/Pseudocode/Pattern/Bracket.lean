import Pseudocode.Pattern.Escape

/-!
# Bracketed classes

A class in brackets is a union of characters, ranges, escapes and further classes; `&&`, `--` and
`~~` combine unions from left to right. Where case does not matter, each operand and the whole are
closed under change of case before a leading `^` takes the complement.
-/

namespace Pseudocode.Pattern

/-- An operation between two unions in brackets. -/
inductive BracketOp where
  | inter
  | diff
  | symmDiff

def BracketOp.apply : BracketOp → CharSet → CharSet → CharSet
  | inter, s, t => .inter s t
  | diff, s, t => .diff s t
  | symmDiff, s, t => .symmDiff s t

/-- The depth of something with parts: one more than that of the parts unless there is only one. -/
def depthOf : List Nat → Nat
  | [] => 0
  | [depth] => depth
  | depths => depths.foldl max 0 + 1

/-- A bracket that has been opened and not yet closed. -/
structure Bracket where
  negated : Bool
  /-- The operation whose right operand is being read, with its left operand and the depth of it. -/
  pending : Option (BracketOp × CharSet × Nat)
  /-- The union read so far. -/
  items : CharSet
  /-- The depths of its members. -/
  depths : List Nat

namespace Bracket

def add (b : Bracket) (s : CharSet) (depth : Nat) : Bracket :=
  { b with items := .union b.items s, depths := depth :: b.depths }

/-- What has been read so far, with the pending operation carried out, and its depth. -/
def operand (flags : Flags) (b : Bracket) : CharSet × Nat :=
  match b.pending with
  | none => (b.items, depthOf b.depths)
  | some (op, left, depth) =>
    (op.apply (flags.caseOf left) (flags.caseOf b.items), max depth (depthOf b.depths) + 1)

/-- The bracket after an operation sign. -/
def operate (flags : Flags) (op : BracketOp) (b : Bracket) : Bracket :=
  { b with pending := some (op, b.operand flags), items := .empty, depths := [] }

/-- The set of a closed bracket and the depth of the bracket. -/
def close? (flags : Flags) (b : Bracket) : Option (CharSet × Nat) :=
  let (s, depth) := b.operand flags
  let whole := if b.negated then flags.compl? (flags.caseOf s) else some (flags.caseOf s)
  whole.map (·, depth + 1)

/-- The hyphens at the start of a text, and what follows. -/
def hyphens (flags : Flags) (inComment : Bool) : Text → Text × Text
  | [] => ([], [])
  | c :: rest =>
    match flags.skips? inComment c with
    | some inComment => hyphens flags inComment rest
    | none =>
      if c = '-' then
        let (more, rest) := hyphens flags false rest
        (c :: more, rest)
      else ([], c :: rest)

/-- Reads what stands right after an opening bracket: a `^`, then hyphens or a closing bracket that
are members themselves. -/
def open? (flags : Flags) (t : Text) : Option (Bracket × Text) :=
  let (negated, t) := match flags.skip t with
    | '^' :: rest => (true, rest)
    | t => (false, t)
  let (members, t) := match hyphens flags false t with
    | ([], ']' :: rest) => ([']'], flags.skip rest)
    | (members, t) => (members, t)
  if t.isEmpty then none
  else some (⟨negated, none, .ofList members, members.map fun _ => 0⟩, t)

/-- Reads a named class between colons after an opening bracket. -/
def named? (t : Text) : Option (CharSet × Text) :=
  match t with
  | ':' :: t =>
    let (negated, t) := match t with
      | '^' :: rest => (true, rest)
      | t => (false, t)
    match t.span (· != ':') with
    | (name, ':' :: ']' :: rest) =>
      (CharSet.named? name).map fun s => (if negated then .compl s else s, rest)
    | _ => none
  | _ => none

/-- Reads one end of a range or a member on its own. -/
def member? (flags : Flags) : Text → Option (Escape × Text)
  | [] => none
  | '\\' :: rest => Escape.read? flags rest
  | c :: rest => some (.char c, rest)

/-- The set of a member on its own; a condition is none. -/
def single? : Escape → Option CharSet
  | .char c => some (.single c)
  | .set s => some s
  | .anchor _ => none

/-- Reads a member or a range. A hyphen makes a range unless a closing bracket or another hyphen
follows it; both ends are characters, in order. -/
def range? (flags : Flags) (t : Text) : Option (CharSet × Text) := do
  let (low, t) ← member? flags t
  let t := flags.skip t
  match t with
  | '-' :: rest =>
    match flags.skip rest with
    | [] => none
    | c :: rest =>
      if c = ']' ∨ c = '-' then return (← single? low, t)
      else
        let (high, rest) ← member? flags (c :: rest)
        match low, high with
        | .char lo, .char hi => if lo ≤ hi then some (.range lo hi, rest) else none
        | _, _ => none
  | _ => return (← single? low, t)

/-- Reads up to the end of the outermost bracket, inside `b`, which is inside `outer`; the result
has its set and its depth. -/
def read? (flags : Flags) : (fuel : Nat) → (b : Bracket) → (outer : List Bracket) → Text →
    Option ((CharSet × Nat) × Text)
  | 0, _, _, _ => none
  | fuel + 1, b, outer, t =>
    match flags.skip t with
    | [] => none
    | '[' :: rest =>
      match named? rest with
      | some (s, rest) => read? flags fuel (b.add s 0) outer rest
      | none => do
        let (inner, rest) ← open? flags rest
        read? flags fuel inner (b :: outer) rest
    | ']' :: rest => do
      let (s, depth) ← b.close? flags
      match outer with
      | [] => some ((s, depth), rest)
      | parent :: outer => read? flags fuel (parent.add s depth) outer rest
    | '&' :: '&' :: rest => read? flags fuel (b.operate flags .inter) outer rest
    | '-' :: '-' :: rest => read? flags fuel (b.operate flags .diff) outer rest
    | '~' :: '~' :: rest => read? flags fuel (b.operate flags .symmDiff) outer rest
    | t => do
      let (s, rest) ← range? flags t
      read? flags fuel (b.add s 0) outer rest

end Bracket

/-- Reads a class after its opening bracket; the result has its set and its depth. -/
def bracket? (flags : Flags) (t : Text) : Option ((CharSet × Nat) × Text) := do
  let (b, rest) ← Bracket.open? flags t
  Bracket.read? flags (t.length + 1) b [] rest

end Pseudocode.Pattern
