import Pseudocode.Text.Basic

/-!
# ASCII letters

Keywords are compared without regard to the case of ASCII letters; every other character counts as
it is.
-/

namespace Pseudocode.Text

/-- The lower case of an ASCII capital, and any other character itself. -/
def asciiLower (c : Char) : Char := if 'A' ≤ c ∧ c ≤ 'Z' then Char.ofNat (c.toNat + 32) else c

/-- Two characters agree up to the case of ASCII letters. -/
def sameLetter (a b : Char) : Bool := asciiLower a == asciiLower b

/-- Two texts agree up to the case of ASCII letters. -/
def sameWord : (a b : Text) → Bool
  | [], [] => true
  | a :: as, b :: bs => sameLetter a b && sameWord as bs
  | _, _ => false

/-- A digit from `0` to `9`. -/
def isAsciiDigit (c : Char) : Bool := '0' ≤ c && c ≤ '9'

def isAsciiAlphanumeric (c : Char) : Bool :=
  isAsciiDigit c || ('a' ≤ c && c ≤ 'z') || ('A' ≤ c && c ≤ 'Z')

def hexDigit? (c : Char) : Option Nat :=
  if '0' ≤ c ∧ c ≤ '9' then some (c.toNat - '0'.toNat)
  else if 'a' ≤ c ∧ c ≤ 'f' then some (c.toNat - 'a'.toNat + 10)
  else if 'A' ≤ c ∧ c ≤ 'F' then some (c.toNat - 'A'.toNat + 10)
  else none

def decimalValue (t : Text) : Nat := t.foldl (fun n c => 10 * n + (c.toNat - '0'.toNat)) 0

/-- The character with code point `n`; a surrogate or a number out of range names none. -/
def char? (n : Nat) : Option Char := if n.isValidChar then some (Char.ofNat n) else none

end Pseudocode.Text
