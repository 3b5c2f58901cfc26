import Pseudocode.Pattern.Bracket

/-!
# Reading patterns

The written form of patterns. A pattern is read from left to right on a stack of the groups that
are open; each sign adds an item to the innermost group, wraps its last item in a repetition, or
opens or closes a group.
-/

namespace Pseudocode.Pattern

/-- An item of a sequence with the depth of its parts; a change of flags is an item without a
pattern. -/
structure Item where
  pattern : Option Pattern
  depth : Nat

/-- A group that is being read. -/
structure Group where
  /-- The number of a capturing group. -/
  index : Option Nat
  /-- The flags outside the group. -/
  outer : Flags
  /-- The finished alternatives, the last first. -/
  branches : List Item
  /-- The sequence being read, the last item first. -/
  items : List Item

/-- A pattern in the middle of being read. -/
structure Reading where
  flags : Flags
  /-- The innermost group. -/
  group : Group
  /-- The groups around it, the innermost first. -/
  outer : List Group
  /-- The number of capturing groups opened so far. -/
  count : Nat
  names : List Text

/-- Deeper patterns than this are refused. -/
def depthLimit : Nat := 250

def sequence (items : List Item) : Item :=
  let patterns := items.reverse.filterMap Item.pattern
  let whole := match patterns with
    | [] => empty
    | p :: rest => rest.foldl seq p
  ⟨some whole, depthOf (items.map Item.depth)⟩

def alternatives (branches : List Item) : Item :=
  let patterns := branches.filterMap Item.pattern
  let whole := match patterns with
    | [] => empty
    | p :: rest => rest.foldl (fun q p => alt p q) p
  ⟨some whole, depthOf (branches.map Item.depth)⟩

/-- The item that a group's content makes. -/
def Group.content (g : Group) : Item := alternatives (sequence g.items :: g.branches)

def decimal? (t : Text) : Option (Nat × Text) :=
  match (Text.trimStart t).span Text.isAsciiDigit with
  | ([], _) => none
  | (digits, rest) =>
    let n := Text.decimalValue digits
    if n < 4294967296 then some (n, Text.trimStart rest) else none

/-- Reads a count after its opening brace: the least and the greatest number of rounds. -/
def count? (flags : Flags) (t : Text) : Option (Nat × Option Nat × Text) := do
  let (least, t) ← decimal? (flags.skip t)
  match t with
  | '}' :: rest => some (least, some least, rest)
  | ',' :: rest =>
    match flags.skip rest with
    | '}' :: rest => some (least, none, rest)
    | rest =>
      let (most, rest) ← decimal? rest
      match rest with
      | '}' :: rest => if least ≤ most then some (least, some most, rest) else none
      | _ => none
  | _ => none

/-- Reads the name of a group up to its closing angle bracket. -/
def groupName? (t : Text) : Option (Text × Text) :=
  match t.span (· != '>') with
  | (c :: name, '>' :: rest) =>
    let isInitial := c == '_' || Text.isAlphabetic c
    let isNameSign := fun c => Text.isAlphanumeric c || ['_', '.', '[', ']'].contains c
    if isInitial && name.all isNameSign then some (c :: name, rest) else none
  | _ => none

namespace Reading

/-- The start of a pattern. -/
def begin (flags : Flags) : Reading := ⟨flags, ⟨none, flags, [], []⟩, [], 0, []⟩

def push (r : Reading) (item : Item) : Reading :=
  { r with group := { r.group with items := item :: r.group.items } }

/-- One more pattern without parts in the innermost group. -/
def pushLeaf (r : Reading) (p : Pattern) : Reading := r.push ⟨some p, 0⟩

def pushChar (r : Reading) (c : Char) : Reading :=
  r.pushLeaf (one (r.flags.caseOf (.single c)))

def nextBranch (r : Reading) : Reading :=
  { r with group := { r.group with branches := sequence r.group.items :: r.group.branches, items := [] } }

def enter (r : Reading) (index : Option Nat) (flags : Flags) : Reading :=
  { r with flags, group := ⟨index, r.flags, [], []⟩, outer := r.group :: r.outer }

def enterCapture (r : Reading) : Reading :=
  { r.enter (some (r.count + 1)) r.flags with count := r.count + 1 }

def leave? (r : Reading) : Option Reading :=
  match r.outer with
  | [] => none
  | parent :: outer =>
    let content := r.group.content
    let p := content.pattern.getD empty
    let p := match r.group.index with
      | some index => Pattern.group index p
      | none => p
    some ({ r with flags := r.group.outer, group := parent, outer }.push ⟨some p, content.depth + 1⟩)

/-- The last item repeated; there must be one that is not a change of flags. -/
def repeat? (r : Reading) (least : Nat) (most : Option Nat) (greedy : Bool) : Option Reading :=
  match r.group.items with
  | ⟨some p, depth⟩ :: items =>
    let greedy := greedy != r.flags.swapGreed
    some { r with group := { r.group with items := ⟨some (p.times least most greedy), depth + 1⟩ :: items } }
  | _ => none

/-- The last item repeated; a question mark right after the sign reverses the preference. -/
def repeatWith? (r : Reading) (least : Nat) (most : Option Nat) (t : Text) :
    Option (Reading × Text) :=
  match t with
  | '?' :: rest => (r.repeat? least most false).map (·, rest)
  | _ => (r.repeat? least most true).map (·, t)

/-- Reads what follows an opening parenthesis. -/
def open? (r : Reading) (t : Text) : Option (Reading × Text) :=
  let named (t : Text) : Option (Reading × Text) := do
    let (name, rest) ← groupName? t
    if r.names.contains name then none
    else return ({ r.enterCapture with names := name :: r.names }, rest)
  match t with
  | '?' :: 'P' :: '<' :: rest => named rest
  | '?' :: '<' :: rest => named rest
  | '?' :: rest => do
    let (flags, colon, any, rest) ← r.flags.read? false false [] rest
    if colon then return (r.enter none flags, rest)
    else if any then return ({ r with flags }.push ⟨none, 0⟩, rest)
    else none
  | t => some (r.enterCapture, t)

def escape? (r : Reading) (t : Text) : Option (Reading × Text) := do
  let (escape, rest) ← Escape.read? r.flags t
  match escape with
  | .char c => return (r.pushChar c, rest)
  | .set s => return (r.pushLeaf (one s), rest)
  | .anchor a => return (r.pushLeaf (anchor a), rest)

/-- Reads one sign, which is `c`, and what belongs to it. -/
def step? (r : Reading) (c : Char) (rest : Text) : Option (Reading × Text) :=
  match c with
  | '(' => r.open? (r.flags.skip rest)
  | ')' => r.leave?.map (·, rest)
  | '|' => some (r.nextBranch, rest)
  | '[' =>
    (bracket? r.flags rest).map fun ((s, depth), rest) => (r.push ⟨some (one s), depth⟩, rest)
  | '?' => r.repeatWith? 0 (some 1) rest
  | '*' => r.repeatWith? 0 none rest
  | '+' => r.repeatWith? 1 none rest
  | '{' => do
    let (least, most, rest) ← count? r.flags rest
    r.repeatWith? least most rest
  | '.' => r.flags.dot?.map fun s => (r.pushLeaf (one s), rest)
  | '^' => some (r.pushLeaf (anchor r.flags.caret), rest)
  | '$' => some (r.pushLeaf (anchor r.flags.dollar), rest)
  | '\\' => r.escape? rest
  | c => some (r.pushChar c, rest)

/-- Reads to the end; all groups must be closed there. -/
def readAll? : (fuel : Nat) → Reading → Text → Option Item
  | 0, _, _ => none
  | fuel + 1, r, t =>
    match r.flags.skip t with
    | [] => if r.outer.isEmpty then some r.group.content else none
    | c :: rest =>
      match r.step? c rest with
      | none => none
      | some (r, rest) => readAll? fuel r rest

end Reading

/-- The pattern that a text writes; letters match in either case. A text that is no pattern, or one
whose pattern is too deep or too large, writes none. -/
def read? (t : Text) : Option Pattern := do
  let whole ← Reading.readAll? (t.length + 1) (.begin .standard) t
  let p ← whole.pattern
  if whole.depth ≤ depthLimit ∧ p.weight ≤ weightLimit then some p else none

end Pseudocode.Pattern
