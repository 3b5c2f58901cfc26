import Pseudocode.Pattern.CharSet

/-!
# Patterns

A pattern describes texts and captures parts of them. Alternatives and repetitions are ordered: a
search takes the first way to match in that order.
-/

namespace Pseudocode

/-- What a position asks of the characters beside it, with regard to which are word characters. -/
inductive WordEdge where
  /-- Exactly one side is a word character. -/
  | boundary
  /-- Both sides are word characters or neither is. -/
  | interior
  | start
  | finish
  /-- No word character before. -/
  | startHalf
  /-- No word character after. -/
  | finishHalf
deriving DecidableEq

/-- Whether the edge lies between a word character or not before and after it. -/
def WordEdge.holds : WordEdge → (before after : Bool) → Bool
  | boundary, before, after => before != after
  | interior, before, after => before == after
  | start, before, after => !before && after
  | finish, before, after => before && !after
  | startHalf, before, _ => !before
  | finishHalf, _, after => !after

/-- A condition on a position between two characters. -/
inductive Anchor where
  | textStart
  | textEnd
  | lineStart
  | lineEnd
  /-- The start of a line where a carriage return and a line feed, together or alone, end lines. -/
  | anyLineStart
  /-- The end of a line where a carriage return and a line feed, together or alone, end lines. -/
  | anyLineEnd
  | word (isWord : CharSet) (edge : WordEdge)

/-- A pattern. -/
inductive Pattern where
  | empty
  | one (set : CharSet)
  | anchor (a : Anchor)
  | seq (p q : Pattern)
  | alt (p q : Pattern)
  | group (index : Nat) (p : Pattern)
  /-- `count` times. -/
  | exactly (count : Nat) (p : Pattern)
  /-- Any number of times up to `count`, as many as possible first if `greedy`. -/
  | upTo (count : Nat) (greedy : Bool) (p : Pattern)
  /-- Once or more often, as often as possible first if `greedy`. -/
  | plus (greedy : Bool) (p : Pattern)

namespace Pattern

/-- The greatest number of a capture group in the pattern, zero without groups. -/
def groupCount : Pattern → Nat
  | empty | one _ | anchor _ => 0
  | seq p q | alt p q => max p.groupCount q.groupCount
  | group index p => max index p.groupCount
  | exactly _ p | upTo _ _ p | plus _ p => p.groupCount

/-- Whether the pattern can match no character at all. -/
def isEmptyOnly : Pattern → Bool
  | empty | anchor _ => true
  | one _ => false
  | seq p q | alt p q => p.isEmptyOnly && q.isEmptyOnly
  | group _ p | exactly _ p | upTo _ _ p | plus _ p => p.isEmptyOnly

/-- An estimate of the bytes that an automaton for the pattern takes. -/
def weight : Pattern → Nat
  | empty => 24
  | one set => set.weight
  | anchor _ => 32
  | seq p q => p.weight + q.weight
  | alt p q => p.weight + q.weight + 32
  | group _ p => p.weight + 64
  | exactly count p => count * p.weight
  | upTo count _ p => count * (p.weight + 32)
  | plus _ p => p.weight + 32

/-- Automata of more bytes than this are refused. -/
def weightLimit : Nat := 10485760

/-- `p` between `least` and `most` times, without bound if `most` is absent; the order is that of
fewer or more repetitions as `greedy` says. A pattern that matches only the empty text is repeated
at most once. -/
def times (least : Nat) (most : Option Nat) (greedy : Bool) (p : Pattern) : Pattern :=
  let (least, most) :=
    if p.isEmptyOnly then (min least 1, some (min (most.getD 1) 1)) else (least, most)
  match least, most with
  | 0, some 0 => empty
  | 1, some 1 => p
  | 0, none => upTo 1 greedy (plus greedy p)
  | 1, none => plus greedy p
  | n + 2, none => seq (exactly (n + 1) p) (plus greedy p)
  | 0, some m => upTo m greedy p
  | n + 1, some m =>
    if m ≤ n + 1 then exactly (n + 1) p else seq (exactly (n + 1) p) (upTo (m - (n + 1)) greedy p)

end Pattern
end Pseudocode
