import Pseudocode.Pattern.Basic

/-!
# Searching

A pattern is run from a position and gives the positions where it can end, in order of preference,
each with what was captured on the way. Of several ways to the same end only the preferred one is
kept: what follows cannot tell them apart. A search takes the first way from the leftmost position
that has one.
-/

namespace Pseudocode.Pattern

/-- A position in a text on the way through a pattern. -/
structure Thread where
  /-- The number of characters before the position. -/
  offset : Nat
  /-- The character before the position. -/
  previous : Option Char
  /-- The text after the position. -/
  rest : Text
  /-- What the groups have captured so far, the latest first. -/
  captures : List (Nat × Text)

namespace Thread

def atStart (t : Text) : Thread := ⟨0, none, t, []⟩

/-- The thread after one more character of `set`, if the next character is one. -/
def step (set : CharSet) (t : Thread) : Option Thread :=
  match t.rest with
  | [] => none
  | c :: rest => if set.contains c then some { t with offset := t.offset + 1, previous := some c, rest }
    else none

/-- `finish` with the text since `start` captured as group `index`. -/
def capture (index : Nat) (start finish : Thread) : Thread :=
  { finish with
    captures := (index, start.rest.take (finish.offset - start.offset)) :: finish.captures }

/-- The text that group `index` captured last, empty if it took no part. -/
def captured (index : Nat) (t : Thread) : Text := (t.captures.lookup index).getD []

/-- The first thread at each position, in order. -/
def distinct : List Thread → List Thread
  | [] => []
  | t :: ts => t :: (distinct ts).filter (·.offset ≠ t.offset)

/-- Whether a condition holds at a thread's position. -/
def meets (t : Thread) : Anchor → Bool
  | .textStart => t.previous.isNone
  | .textEnd => t.rest.isEmpty
  | .lineStart => t.previous.isNone || t.previous == some '\n'
  | .lineEnd => t.rest.isEmpty || t.rest.head? == some '\n'
  | .anyLineStart =>
    t.previous.isNone || t.previous == some '\n'
      || t.previous == some '\r' && t.rest.head? != some '\n'
  | .anyLineEnd =>
    t.rest.isEmpty || t.rest.head? == some '\r'
      || t.rest.head? == some '\n' && t.previous != some '\r'
  | .word isWord edge => edge.holds (t.previous.any isWord.contains) (t.rest.head?.any isWord.contains)

end Thread

open Thread

def rounds (round : Thread → List Thread) : Nat → Thread → List Thread
  | 0, t => [t]
  | count + 1, t => distinct ((rounds round count t).flatMap round)

/-- `more` before or after the thread that stops here. -/
def orStop (greedy : Bool) (more : List Thread) (t : Thread) : List Thread :=
  if greedy then more ++ [t] else t :: more

/-- The ends of at most `count` rounds of `round`, and the pairs of rounds left and position that
have been entered, which are not entered again. -/
def atMost (round : Thread → List Thread) (greedy : Bool) :
    (count : Nat) → (seen : List (Nat × Nat)) → Thread → List Thread × List (Nat × Nat)
  | 0, seen, t => ([t], seen)
  | count + 1, seen, t =>
    if seen.contains (count, t.offset) then ([], seen)
    else
      let (more, seen) := (round t).foldl
        (fun (acc : List Thread × List (Nat × Nat)) u =>
          let (further, seen) := atMost round greedy count acc.2 u
          (acc.1 ++ further, seen))
        ([], (count, t.offset) :: seen)
      (orStop greedy more t, seen)

/-- The ends of one or more rounds of `round`, and the positions where a round has ended, from which
no second round is begun. A round that does not move is not followed by another. -/
def onceOrMore (round : Thread → List Thread) (greedy : Bool) :
    (fuel : Nat) → (seen : List Nat) → Thread → List Thread × List Nat
  | 0, seen, _ => ([], seen)
  | fuel + 1, seen, t =>
    (round t).foldl
      (fun (acc : List Thread × List Nat) u =>
        if acc.2.contains u.offset then acc
        else
          let (more, seen) :=
            if u.offset = t.offset then ([], u.offset :: acc.2)
            else onceOrMore round greedy fuel (u.offset :: acc.2) u
          (acc.1 ++ orStop greedy more u, seen))
      ([], seen)

/-- The ways through a pattern from a thread, the preferred first, at most one for each end. -/
def run : Pattern → Thread → List Thread
  | empty, t => [t]
  | one set, t => (t.step set).toList
  | anchor a, t => if t.meets a then [t] else []
  | seq p q, t => distinct ((p.run t).flatMap q.run)
  | alt p q, t => distinct (p.run t ++ q.run t)
  | group index p, t => (p.run t).map (capture index t)
  | exactly count p, t => rounds p.run count t
  | upTo count greedy p, t => distinct (atMost p.run greedy count [] t).1
  | plus greedy p, t => (onceOrMore p.run greedy (t.rest.length + 1) [] t).1

/-- The first way through `p` from the leftmost position, at or after `previous`, that has one. -/
def searchFrom (p : Pattern) (offset : Nat) (previous : Option Char) : Text → Option Thread
  | [] => (p.run ⟨offset, previous, [], []⟩).head?
  | c :: rest =>
    match (p.run ⟨offset, previous, c :: rest, []⟩).head? with
    | some t => some t
    | none => searchFrom p (offset + 1) (some c) rest

/-- The texts of the capture groups where `p` first matches in `t`; a group that takes no part has
the empty text. -/
def captures? (p : Pattern) (t : Text) : Option (List Text) :=
  (searchFrom p 0 none t).map fun found =>
    (List.range p.groupCount).map fun i => found.captured (i + 1)

end Pseudocode.Pattern
