/-!
# Sets and maps of code points

Properties of characters are tables of runs in increasing order; this module looks them up.
-/

namespace Pseudocode.Text

/-- Whether `n` lies in one of the closed ranges, which are given in increasing order. -/
def inRanges (n : Nat) : List (Nat × Nat) → Bool
  | [] => false
  | (lo, hi) :: rest => if n < lo then false else n ≤ hi || inRanges n rest

/-- The characters `lo, lo + step, …, hi`, each of which becomes itself plus `shift`. -/
structure CaseRun where
  lo : Nat
  hi : Nat
  step : Nat
  shift : Int

/-- Whether the run changes the code point `n`. -/
def CaseRun.covers (run : CaseRun) (n : Nat) : Bool :=
  run.lo ≤ n && n ≤ run.hi && (n - run.lo) % run.step == 0

/-- What the first run that covers `c` makes of it, and `c` itself where none does. -/
def shiftBy (runs : List CaseRun) (c : Char) : Char :=
  match runs.find? (·.covers c.toNat) with
  | some run => Char.ofNat (Int.toNat (c.toNat + run.shift))
  | none => c

/-- The characters that some run turns into `c`. -/
def shiftedTo (runs : List CaseRun) (c : Char) : List Char :=
  runs.filterMap fun run =>
    let n := Int.toNat (c.toNat - run.shift)
    if run.covers n then some (Char.ofNat n) else none

end Pseudocode.Text
