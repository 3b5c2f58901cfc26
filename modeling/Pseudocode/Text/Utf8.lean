import Pseudocode.Text.Ascii

/-!
# UTF-8

Texts as bytes. Reading is strict where a file has to be text, and replaces what is not text where
a program's output is shown.
-/

namespace Pseudocode.Text

def byteLength (c : Char) : Nat :=
  if c.toNat < 0x80 then 1 else if c.toNat < 0x800 then 2 else if c.toNat < 0x10000 then 3 else 4

def byteSize : Text → Nat
  | [] => 0
  | c :: rest => byteLength c + byteSize rest

def encodeChar (c : Char) : List UInt8 :=
  let n := c.toNat
  let tail (k : Nat) : UInt8 := UInt8.ofNat (0x80 + (n >>> (6 * k)) % 64)
  if n < 0x80 then [UInt8.ofNat n]
  else if n < 0x800 then [UInt8.ofNat (0xc0 + n / 64), tail 0]
  else if n < 0x10000 then [UInt8.ofNat (0xe0 + n / 4096), tail 1, tail 0]
  else [UInt8.ofNat (0xf0 + n / 262144), tail 2, tail 1, tail 0]

/-- The bytes of a text. -/
def encode (t : Text) : List UInt8 := t.flatMap encodeChar

/-- For a first byte: the number of bytes that follow, the range of the second byte and the bits
that the first contributes. -/
def leadByte (b : Nat) : Option (Nat × Nat × Nat × Nat) :=
  if b < 0xc2 then none
  else if b < 0xe0 then some (1, 0x80, 0xbf, b - 0xc0)
  else if b < 0xf0 then
    some (2, if b = 0xe0 then 0xa0 else 0x80, if b = 0xed then 0x9f else 0xbf, b - 0xe0)
  else if b < 0xf5 then
    some (3, if b = 0xf0 then 0x90 else 0x80, if b = 0xf4 then 0x8f else 0xbf, b - 0xf0)
  else none

/-- Reads up to `count` continuation bytes onto the bits `acc`: the bits if all are there, and the
bytes that remain after the last one read. -/
def continuation : (count lo hi acc : Nat) → List UInt8 → Option Nat × List UInt8
  | 0, _, _, acc, bytes => (some acc, bytes)
  | _ + 1, _, _, _, [] => (none, [])
  | count + 1, lo, hi, acc, b :: bytes =>
    if lo ≤ b.toNat ∧ b.toNat ≤ hi then
      continuation count 0x80 0xbf (acc * 64 + (b.toNat - 0x80)) bytes
    else (none, b :: bytes)

theorem length_continuation_le (count lo hi acc : Nat) (bytes : List UInt8) :
    (continuation count lo hi acc bytes).2.length ≤ bytes.length := by
  induction count generalizing lo hi acc bytes with
  | zero => simp [continuation]
  | succ count ih =>
    cases bytes with
    | nil => simp [continuation]
    | cons b bytes =>
      rw [continuation]
      split
      · exact Nat.le_succ_of_le (ih _ _ _ _)
      · simp

/-- The first character of a sequence of bytes, `none` for a longest part of one that cannot go on,
with the bytes that remain. -/
def decodeFirst (b : UInt8) (bytes : List UInt8) : Option Char × List UInt8 :=
  if b.toNat < 0x80 then (some (Char.ofNat b.toNat), bytes)
  else match leadByte b.toNat with
    | none => (none, bytes)
    | some (count, lo, hi, bits) =>
      let (code, rest) := continuation count lo hi bits bytes
      (code.map Char.ofNat, rest)

theorem length_decodeFirst_le (b : UInt8) (bytes : List UInt8) :
    (decodeFirst b bytes).2.length ≤ bytes.length := by
  unfold decodeFirst
  split
  · simp
  · split
    · simp
    · exact length_continuation_le _ _ _ _ _

/-- The characters that the bytes encode, `none` for each ill-formed part. -/
def decodeParts : List UInt8 → List (Option Char)
  | [] => []
  | b :: bytes => (decodeFirst b bytes).1 :: decodeParts (decodeFirst b bytes).2
termination_by bytes => bytes.length
decreasing_by exact Nat.lt_succ_of_le (length_decodeFirst_le b bytes)

/-- The text that the bytes encode, if they are well formed. -/
def decode? (bytes : List UInt8) : Option Text := (decodeParts bytes).mapM id

/-- The text that the bytes encode, with the replacement character for each ill-formed part. -/
def decodeLossy (bytes : List UInt8) : Text := (decodeParts bytes).map (·.getD '\ufffd')

end Pseudocode.Text
