import Pseudocode.Text.Case
import Pseudocode.Text.WhiteSpace
import Pseudocode.Text.Word

/-!
# Sets of characters

What a single position of a pattern can accept: characters, ranges, named classes and what
set operations make of them.
-/

namespace Pseudocode

/-- A set of characters as a pattern describes it. -/
inductive CharSet where
  | empty
  | single (c : Char)
  | range (lo hi : Char)
  /-- Closed ranges of code points, in increasing order. -/
  | ranges (rs : List (Nat × Nat))
  | digit
  | white
  | word
  | compl (s : CharSet)
  | union (s t : CharSet)
  | inter (s t : CharSet)
  | diff (s t : CharSet)
  | symmDiff (s t : CharSet)
  /-- The characters that agree with a member up to case. -/
  | anyCase (s : CharSet)

namespace CharSet

def contains : CharSet → Char → Bool
  | empty, _ => false
  | single a, c => c == a
  | range lo hi, c => lo ≤ c && c ≤ hi
  | ranges rs, c => Text.inRanges c.toNat rs
  | digit, c => Text.isDigit c
  | white, c => Text.isWhite c
  | word, c => Text.isWordChar c
  | compl s, c => !s.contains c
  | union s t, c => s.contains c || t.contains c
  | inter s t, c => s.contains c && t.contains c
  | diff s t, c => s.contains c && !t.contains c
  | symmDiff s t, c => s.contains c != t.contains c
  | anyCase s, c => (Text.sameCase c).any s.contains

def all : CharSet := compl empty

def unions (sets : List CharSet) : CharSet := sets.foldr union empty

def ofList (cs : List Char) : CharSet := unions (cs.map single)

def ascii : CharSet := range '\x00' '\x7f'

def asciiLetter : CharSet := union (range 'a' 'z') (range 'A' 'Z')

def asciiDigit : CharSet := range '0' '9'

/-- The word characters of ASCII. -/
def asciiWord : CharSet := unions [asciiLetter, asciiDigit, single '_']

def asciiWhite : CharSet := union (range '\t' '\r') (single ' ')

/-- An estimate of the bytes that a table for the set takes, large for the classes that reach over
many scripts. -/
def weight : CharSet → Nat
  | empty => 0
  | single _ => 32
  | range _ _ => 48
  | ranges rs => 60 * rs.length
  | digit => 3000
  | white => 700
  | word => 46000
  | compl s => s.weight + 300
  | union s t | inter s t | diff s t | symmDiff s t => s.weight + t.weight
  | anyCase s => s.weight + 16

/-- The ASCII classes that a bracket can name. -/
def named? (name : Text) : Option CharSet :=
  let alnum := union asciiLetter asciiDigit
  let graph := range '!' '~'
  match String.ofList name with
  | "alnum" => some alnum
  | "alpha" => some asciiLetter
  | "ascii" => some ascii
  | "blank" => some (ofList ['\t', ' '])
  | "cntrl" => some (union (range '\x00' '\x1f') (single '\x7f'))
  | "digit" => some asciiDigit
  | "graph" => some graph
  | "lower" => some (range 'a' 'z')
  | "print" => some (range ' ' '~')
  | "punct" => some (diff graph alnum)
  | "space" => some asciiWhite
  | "upper" => some (range 'A' 'Z')
  | "word" => some asciiWord
  | "xdigit" => some (unions [asciiDigit, range 'a' 'f', range 'A' 'F'])
  | _ => none

end CharSet
end Pseudocode
