import Pseudocode.Text.Ascii

/-!
# Numbers with a fraction

A number with a fraction or an exponent has 53 binary digits. It is kept as a whole multiple of the
least number above zero, `2 ^ -1074`, and shown with the fewest decimal digits that are read as the
same number.
-/

namespace Pseudocode.Toml.Float

/-- The number of least numbers in one. -/
def unit : Nat := Nat.pow 2 1074

/-- The first power of two that is out of range, `2 ^ 1024`. -/
def bound : Nat := Nat.pow 2 2098

/-- `n / d` as a whole number; a half goes to the even neighbour. -/
def roundEven (n d : Nat) : Nat :=
  if 2 * (n % d) < d ∨ 2 * (n % d) = d ∧ n / d % 2 = 0 then n / d else n / d + 1

/-- The distance of numbers next to `n / d`: it has 53 binary digits above it, or is that of the
least numbers. -/
def step (n d : Nat) : Nat := Nat.pow 2 ((n / d).log2 - 52)

/-- The number next to `n / d` least numbers. -/
def nearest (n d : Nat) : Nat := roundEven n (d * step n d) * step n d

/-- The number that is written by digits and an exponent of ten, unless it is out of range. What is
far out of range or far below the least number need not be computed. -/
def ofDecimal? (digits : Nat) (exponent : Int) : Option Nat :=
  let size := exponent + (Text.ofNat digits).length
  if digits = 0 ∨ size < -400 then some 0
  else if size > 400 then none
  else
    let x := nearest (digits * Nat.pow 10 exponent.toNat * unit) (Nat.pow 10 (-exponent).toNat)
    if x < bound then some x else none

/-- The digits of a decimal with the exponent `g` that is read as `x`: of two neighbours of `x` that
are, the nearer one, and the greater one if both are as near. -/
def digitsAt? (x : Nat) (g : Int) : Option (Nat × Int) :=
  let n := x * Nat.pow 10 (-g).toNat
  let d := unit * Nat.pow 10 g.toNat
  let below := n / d
  let reads (c : Nat) : Bool := ofDecimal? c g == some x
  if reads below && (2 * (n % d) < d || !reads (below + 1)) then some (below, g)
  else if reads (below + 1) then some (below + 1, g)
  else none

/-- The fewest digits that are read as `x`, with their exponent of ten. -/
def shortest (x : Nat) : Nat × Int :=
  ((List.range 1384).findSome? fun i : Nat => digitsAt? x (309 - i)).getD (0, 0)

/-- A decimal as shown: its digits with the point after the first `point` of them, without needless
zeros. -/
def decimalText (digits : Text) (point : Int) : Text :=
  let whole := digits.take point.toNat ++ List.replicate (point.toNat - digits.length) '0'
  let fraction := List.replicate (-point).toNat '0' ++ digits.drop point.toNat
  let whole := whole.dropWhile (· == '0')
  let fraction := Text.dropEndWhile (· == '0') fraction
  (if whole.isEmpty then ['0'] else whole)
    ++ (if fraction.isEmpty then [] else '.' :: fraction)

def shown (x : Nat) : Text :=
  let (digits, exponent) := shortest x
  let digits := Text.ofNat digits
  decimalText digits (digits.length + exponent)

end Pseudocode.Toml.Float
