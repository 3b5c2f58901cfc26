import Pseudocode.Yaml.Scanner

/-!
# YAML nodes

The tree that the tokens of a YAML text describe. An alias stands for the node with its anchor, and
tags are read but mean nothing here.
-/

namespace Pseudocode.Yaml

/-- A node. -/
inductive Node where
  /-- A scalar, `plain` if it stands without quotes and in no block. -/
  | scalar (text : Text) (plain : Bool)
  | sequence (items : List Node)
  | mapping (entries : List (Node × Node))
  /-- An alias within the node that it names. -/
  | cycle

namespace Node

/-- What is written where nothing is. -/
def absent : Node := scalar [] true

/-- A tree being read: the tokens that remain, the anchors met so far, the latest first, and the tag
handles that may be used. -/
structure Reading where
  tokens : List Token
  anchors : List (Text × Node)
  handles : List Text

/-- A node and what remains after it. -/
abbrev Result := Option (Node × Reading)

namespace Reading

def next (r : Reading) : Reading := { r with tokens := r.tokens.tail }

def peek (r : Reading) : Option Token := r.tokens.head?

/-- Whether the first token is one of those given, or there is none. -/
def atAny (r : Reading) (tokens : List Token) : Bool := r.peek.all (· ∈ tokens)

/-- The node that `read` gives, or nothing written where one of the given tokens comes. -/
def orAbsent (r : Reading) (stops : List Token) (read : Reading → Result) : Result :=
  if r.atAny stops then some (absent, r) else read r

end Reading

/-- The anchor and the tag before a node, each at most once, in either order. -/
def properties? : (fuel : Nat) → (anchor : Option Text) → (tagged : Bool) → Reading →
    Option (Option Text × Bool × Reading)
  | 0, _, _, _ => none
  | fuel + 1, anchor, tagged, r =>
    match r.peek with
    | some (.anchor name) =>
      if anchor.isSome then none else properties? fuel (some name) tagged r.next
    | some (.tag handle) =>
      if tagged ∨ (!handle.isEmpty ∧ handle ∉ r.handles) then none
      else properties? fuel anchor true r.next
    | _ => some (anchor, tagged, r)

section Collections

variable (node : (block indentless : Bool) → Reading → Result)

def blockItems : (fuel : Nat) → Reading → Option (List Node × Reading)
  | 0, _ => none
  | fuel + 1, r =>
    match r.peek with
    | some .blockEntry => do
      let (item, r) ← r.next.orAbsent [.blockEntry, .blockEnd] (node true false)
      let (items, r) ← blockItems fuel r
      return (item :: items, r)
    | some .blockEnd => some ([], r.next)
    | _ => none

/-- The items of a sequence at the column of the keys around it. -/
def indentlessItems : (fuel : Nat) → Reading → Option (List Node × Reading)
  | 0, _ => none
  | fuel + 1, r =>
    match r.peek with
    | some .blockEntry => do
      let (item, r) ← r.next.orAbsent [.blockEntry, .key, .value, .blockEnd] (node true false)
      let (items, r) ← indentlessItems fuel r
      return (item :: items, r)
    | _ => some ([], r)

def blockEntries : (fuel : Nat) → Reading → Option (List (Node × Node) × Reading)
  | 0, _ => none
  | fuel + 1, r =>
    match r.peek with
    | some .key => do
      let (k, r) ← r.next.orAbsent [.key, .value, .blockEnd] (node true true)
      let (v, r) ←
        if r.peek = some .value then r.next.orAbsent [.key, .value, .blockEnd] (node true true)
        else some (absent, r)
      let (entries, r) ← blockEntries fuel r
      return ((k, v) :: entries, r)
    | some .blockEnd => some ([], r.next)
    | _ => none

/-- The value after a key in a flow collection that ends with `stop`. -/
def flowValue (stop : Token) (r : Reading) : Result :=
  if r.peek = some .value then r.next.orAbsent [.flowEntry, stop] (node false false)
  else some (absent, r)

/-- The items of a flow sequence up to its end; a key and a value make a mapping of their own. -/
def flowItems : (fuel : Nat) → (isFirst : Bool) → Reading → Option (List Node × Reading)
  | 0, _, _ => none
  | fuel + 1, isFirst, r =>
    if r.peek = some .flowSequenceEnd then some ([], r.next)
    else if !isFirst ∧ r.peek ≠ some .flowEntry then none
    else
      let r := if isFirst then r else r.next
      match r.peek with
      | some .flowSequenceEnd => some ([], r.next)
      | some .key => do
        let (k, r) ← r.next.orAbsent [.value, .flowEntry, .flowSequenceEnd] (node false false)
        let (v, r) ← flowValue node .flowSequenceEnd r
        let (items, r) ← flowItems fuel false r
        return (.mapping [(k, v)] :: items, r)
      | _ => do
        let (item, r) ← node false false r
        let (items, r) ← flowItems fuel false r
        return (item :: items, r)

/-- The entries of a flow mapping up to its end; a key may stand alone. -/
def flowEntries : (fuel : Nat) → (isFirst : Bool) → Reading →
    Option (List (Node × Node) × Reading)
  | 0, _, _ => none
  | fuel + 1, isFirst, r =>
    if r.peek = some .flowMappingEnd then some ([], r.next)
    else if !isFirst ∧ r.peek ≠ some .flowEntry then none
    else
      let r := if isFirst then r else r.next
      match r.peek with
      | some .flowMappingEnd => some ([], r.next)
      | some .key => do
        let (k, r) ← r.next.orAbsent [.value, .flowEntry, .flowMappingEnd] (node false false)
        let (v, r) ← flowValue node .flowMappingEnd r
        let (entries, r) ← flowEntries fuel false r
        return ((k, v) :: entries, r)
      | _ => do
        let (k, r) ← node false false r
        let (entries, r) ← flowEntries fuel false r
        return ((k, absent) :: entries, r)

/-- The content of a node after its properties. -/
def content (block indentless hasProperties : Bool) (r : Reading) : Result :=
  let fuel := r.tokens.length + 1
  match r.peek with
  | some .blockEntry =>
    if indentless then (indentlessItems node fuel r).map fun (items, r) => (sequence items, r)
    else if hasProperties then some (absent, r) else none
  | some (.scalar text plain) => some (scalar text plain, r.next)
  | some .flowSequenceStart =>
    (flowItems node fuel true r.next).map fun (items, r) => (sequence items, r)
  | some .flowMappingStart =>
    (flowEntries node fuel true r.next).map fun (entries, r) => (mapping entries, r)
  | token =>
    if block ∧ token = some .blockSequenceStart then
      (blockItems node fuel r.next).map fun (items, r) => (sequence items, r)
    else if block ∧ token = some .blockMappingStart then
      (blockEntries node fuel r.next).map fun (entries, r) => (mapping entries, r)
    else if hasProperties then some (absent, r) else none

end Collections

/-- Reads a node. `block` says whether it may be a block collection, and `indentless` whether it may
be a sequence at the column of the keys around it. -/
def read? : (fuel : Nat) → (block indentless : Bool) → Reading → Result
  | 0, _, _, _ => none
  | fuel + 1, block, indentless, r =>
    match r.peek with
    | some (.alias name) => (r.anchors.lookup name).map (·, r.next)
    | _ => do
      let (anchor, tagged, r) ← properties? (r.tokens.length + 1) none false r
      match anchor with
      | none => content (read? fuel) block indentless tagged r
      | some name =>
        let r := { r with anchors := (name, cycle) :: r.anchors }
        let (n, r) ← content (read? fuel) block indentless true r
        return (n, { r with anchors := (name, n) :: r.anchors })

/-- Reads the directives before a document: the version is one of the two that are known, and none
is given twice. The result says whether there were any. -/
def directives? : (version any : Bool) → (handles : List Text) → List Token →
    Option (Bool × List Text × List Token)
  | version, _, handles, .version major minor :: rest =>
    if version ∨ major ≠ 1 ∨ (minor ≠ 1 ∧ minor ≠ 2) then none
    else directives? true true handles rest
  | version, _, handles, .tagDirective handle :: rest =>
    if handle ∈ handles then none else directives? version true (handle :: handles) rest
  | _, any, handles, tokens => some (any, handles, tokens)

/-- The handles of tags that need no directive. -/
def standardHandles : List Text := [['!'], ['!', '!']]

/-- Nothing but the marks of a document's end. -/
def isEnd (tokens : List Token) : Bool := tokens.all (· == .documentEnd)

/-- The only document that tokens describe. -/
def ofTokens? (tokens : List Token) : Option Node := do
  let (any, handles, tokens) ← directives? false false [] tokens
  let handles := handles ++ standardHandles
  let fuel := tokens.length + 1
  let (n, r) ← match tokens with
    | .documentStart :: rest =>
      let r : Reading := ⟨rest, [], handles⟩
      r.orAbsent [.documentStart, .documentEnd, .version 1 1, .version 1 2] (read? fuel true false)
    | _ => if any then none else read? fuel true false ⟨tokens, [], handles⟩
  if isEnd r.tokens then some n else none

end Node

/-- What a YAML text holds. -/
inductive Document where
  /-- Nothing but gaps and comments. -/
  | blank
  | node (n : Node)

/-- The only document of a YAML text. -/
def Document.ofText? (t : Text) : Option Document :=
  match Token.ofText? t with
  | none => none
  | some [] => some .blank
  | some tokens => (Node.ofTokens? tokens).map .node

end Pseudocode.Yaml
