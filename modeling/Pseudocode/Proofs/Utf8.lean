import Pseudocode.Text.Utf8
import Mathlib.Tactic.Lemma

/-!
# Text from its bytes

A character is read from its own bytes and from no others, so strict reading finds the text that was
encoded and refuses everything else. The byte of a line feed is part of no other character and of no
ill-formed part: what is read in place of bytes is the same line by line as it is at once.
-/

namespace Pseudocode.Text

lemma toNat_byte {n : Nat} (h : n < 256) : (UInt8.ofNat n).toNat = n := by
  rw [UInt8.toNat_ofNat', Nat.mod_eq_of_lt h]

lemma eq_byte {n : Nat} {b : UInt8} (h : n = b.toNat) : UInt8.ofNat n = b := by
  rw [h, UInt8.ofNat_toNat]

/-! ### First bytes -/

lemma leadByte_two {b : Nat} (hlo : 0xc2 ≤ b) (hhi : b < 0xe0) :
    leadByte b = some (1, 0x80, 0xbf, b - 0xc0) := by
  rw [leadByte, if_neg (by omega), if_pos hhi]

lemma leadByte_three {b : Nat} (hlo : 0xe0 ≤ b) (hhi : b < 0xf0) :
    leadByte b =
      some (2, if b = 0xe0 then 0xa0 else 0x80, if b = 0xed then 0x9f else 0xbf, b - 0xe0) := by
  rw [leadByte, if_neg (by omega), if_neg (by omega), if_pos hhi]

lemma leadByte_four {b : Nat} (hlo : 0xf0 ≤ b) (hhi : b < 0xf5) :
    leadByte b =
      some (3, if b = 0xf0 then 0x90 else 0x80, if b = 0xf4 then 0x8f else 0xbf, b - 0xf0) := by
  rw [leadByte, if_neg (by omega), if_neg (by omega), if_neg (by omega), if_pos hhi]

/-! ### Characters -/

lemma continuation_byte {count lo hi acc k : Nat} {bytes : List UInt8} (hlo : lo ≤ 0x80 + k)
    (hhi : 0x80 + k ≤ hi) (hk : k < 64) :
    continuation (count + 1) lo hi acc (UInt8.ofNat (0x80 + k) :: bytes) =
      continuation count 0x80 0xbf (acc * 64 + k) bytes := by
  have hbyte : (UInt8.ofNat (0x80 + k)).toNat = 0x80 + k := toNat_byte (by omega)
  rw [continuation, hbyte, if_pos ⟨hlo, hhi⟩, Nat.add_sub_cancel_left]

lemma decodeFirst_encodeChar (c : Char) (rest : List UInt8) :
    ∃ b tail, encodeChar c = b :: tail ∧ decodeFirst b (tail ++ rest) = (some c, rest) := by
  have hvalid : c.toNat < 0xd800 ∨ 0xdfff < c.toNat ∧ c.toNat < 0x110000 := c.valid
  have hchar : Char.ofNat c.toNat = c := Char.ofNat_toNat c
  rw [encodeChar]
  simp only [Nat.shiftRight_eq_div_pow]
  generalize c.toNat = n at *
  split
  · next hone =>
    refine ⟨_, _, rfl, ?_⟩
    rw [decodeFirst, toNat_byte (by omega), if_pos hone, hchar]
    rfl
  split
  · next hone htwo =>
    refine ⟨_, _, rfl, ?_⟩
    have hcode : (0xc0 + n / 64 - 0xc0) * 64 + n / 2 ^ (6 * 0) % 64 = n := by omega
    rw [decodeFirst, toNat_byte (by omega), if_neg (by omega),
      leadByte_two (by omega) (by omega)]
    simp only [List.cons_append, List.nil_append]
    rw [continuation_byte (by omega) (by omega) (by omega), continuation, hcode]
    simp only [Option.map_some, hchar]
  split
  · next htwo hthree =>
    refine ⟨_, _, rfl, ?_⟩
    have hcode : ((0xe0 + n / 4096 - 0xe0) * 64 + n / 2 ^ (6 * 1) % 64) * 64 +
        n / 2 ^ (6 * 0) % 64 = n := by omega
    rw [decodeFirst, toNat_byte (by omega), if_neg (by omega),
      leadByte_three (by omega) (by omega)]
    simp only [List.cons_append, List.nil_append]
    rw [continuation_byte (by split <;> omega) (by split <;> omega) (by omega),
      continuation_byte (by omega) (by omega) (by omega), continuation, hcode]
    simp only [Option.map_some, hchar]
  · next hthree =>
    refine ⟨_, _, rfl, ?_⟩
    have hcode : (((0xf0 + n / 262144 - 0xf0) * 64 + n / 2 ^ (6 * 2) % 64) * 64 +
        n / 2 ^ (6 * 1) % 64) * 64 + n / 2 ^ (6 * 0) % 64 = n := by omega
    rw [decodeFirst, toNat_byte (by omega), if_neg (by omega),
      leadByte_four (by omega) (by omega)]
    simp only [List.cons_append, List.nil_append]
    rw [continuation_byte (by split <;> omega) (by split <;> omega) (by omega),
      continuation_byte (by omega) (by omega) (by omega),
      continuation_byte (by omega) (by omega) (by omega), continuation, hcode]
    simp only [Option.map_some, hchar]

lemma continuation_succ_eq_some {count lo hi acc code : Nat} {bytes rest : List UInt8}
    (h : continuation (count + 1) lo hi acc bytes = (some code, rest)) :
    ∃ b tail, bytes = b :: tail ∧ (lo ≤ b.toNat ∧ b.toNat ≤ hi) ∧
      continuation count 0x80 0xbf (acc * 64 + (b.toNat - 0x80)) tail = (some code, rest) := by
  cases bytes with
  | nil => cases h
  | cons b tail =>
    rw [continuation] at h
    split at h
    · next hrange => exact ⟨b, tail, rfl, hrange, h⟩
    · cases h

lemma toNat_ofNat_of_valid {n : Nat} (h : n.isValidChar) : (Char.ofNat n).toNat = n := by
  rw [Char.ofNat, dif_pos h]
  rfl

lemma encodeChar_two {b x : UInt8} (hb : 0xc2 ≤ b.toNat ∧ b.toNat < 0xe0)
    (hx : 0x80 ≤ x.toNat ∧ x.toNat ≤ 0xbf) :
    encodeChar (Char.ofNat ((b.toNat - 0xc0) * 64 + (x.toNat - 0x80))) = [b, x] := by
  rw [encodeChar, toNat_ofNat_of_valid (.inl (by omega)), if_neg (by omega), if_pos (by omega)]
  simp only [Nat.shiftRight_eq_div_pow]
  rw [eq_byte (b := b) (by omega), eq_byte (b := x) (by omega)]

lemma encodeChar_three {b x y : UInt8} (hb : 0xe0 ≤ b.toNat ∧ b.toNat < 0xf0)
    (hx : (if b.toNat = 0xe0 then 0xa0 else 0x80) ≤ x.toNat ∧
      x.toNat ≤ if b.toNat = 0xed then 0x9f else 0xbf)
    (hy : 0x80 ≤ y.toNat ∧ y.toNat ≤ 0xbf) :
    encodeChar (Char.ofNat (((b.toNat - 0xe0) * 64 + (x.toNat - 0x80)) * 64 +
      (y.toNat - 0x80))) = [b, x, y] := by
  generalize hcode : ((b.toNat - 0xe0) * 64 + (x.toNat - 0x80)) * 64 + (y.toNat - 0x80) = code
  have hrange : (0x80 ≤ x.toNat ∧ x.toNat ≤ 0xbf) ∧ 0x800 ≤ code := by grind
  have hvalid : code < 0xd800 ∨ 0xdfff < code ∧ code < 0x110000 := by grind
  rw [encodeChar, toNat_ofNat_of_valid hvalid, if_neg (by omega), if_neg (by omega),
    if_pos (by omega)]
  simp only [Nat.shiftRight_eq_div_pow]
  rw [eq_byte (b := b) (by omega), eq_byte (b := x) (by omega), eq_byte (b := y) (by omega)]

lemma encodeChar_four {b x y z : UInt8} (hb : 0xf0 ≤ b.toNat ∧ b.toNat < 0xf5)
    (hx : (if b.toNat = 0xf0 then 0x90 else 0x80) ≤ x.toNat ∧
      x.toNat ≤ if b.toNat = 0xf4 then 0x8f else 0xbf)
    (hy : 0x80 ≤ y.toNat ∧ y.toNat ≤ 0xbf) (hz : 0x80 ≤ z.toNat ∧ z.toNat ≤ 0xbf) :
    encodeChar (Char.ofNat ((((b.toNat - 0xf0) * 64 + (x.toNat - 0x80)) * 64 +
      (y.toNat - 0x80)) * 64 + (z.toNat - 0x80))) = [b, x, y, z] := by
  generalize hcode : (((b.toNat - 0xf0) * 64 + (x.toNat - 0x80)) * 64 + (y.toNat - 0x80)) * 64 +
    (z.toNat - 0x80) = code
  have hrange : (0x80 ≤ x.toNat ∧ x.toNat ≤ 0xbf) ∧ 0x10000 ≤ code := by grind
  have hvalid : code < 0xd800 ∨ 0xdfff < code ∧ code < 0x110000 := by grind
  rw [encodeChar, toNat_ofNat_of_valid hvalid, if_neg (by omega), if_neg (by omega),
    if_neg (by omega)]
  simp only [Nat.shiftRight_eq_div_pow]
  rw [eq_byte (b := b) (by omega), eq_byte (b := x) (by omega), eq_byte (b := y) (by omega),
    eq_byte (b := z) (by omega)]

lemma continuation_zero_eq_some {lo hi acc code : Nat} {bytes rest : List UInt8}
    (h : continuation 0 lo hi acc bytes = (some code, rest)) : acc = code ∧ bytes = rest := by
  simpa [continuation] using h

lemma eq_encodeChar_of_decodeFirst {b : UInt8} {bytes rest : List UInt8} {c : Char}
    (h : decodeFirst b bytes = (some c, rest)) : b :: bytes = encodeChar c ++ rest := by
  rw [decodeFirst] at h
  split at h
  · next hone =>
    obtain ⟨rfl, rfl⟩ : Char.ofNat b.toNat = c ∧ bytes = rest := by simpa using h
    rw [encodeChar, toNat_ofNat_of_valid (.inl (by omega)), if_pos hone, UInt8.ofNat_toNat]
    rfl
  split at h
  · cases h
  · next count lo hi bits hlead =>
    obtain ⟨code?, rest', hread⟩ : ∃ code? rest', continuation count lo hi bits bytes =
        (code?, rest') := ⟨_, _, rfl⟩
    rw [hread] at h
    cases code? with
    | none => cases h
    | some code =>
      obtain ⟨rfl, rfl⟩ : Char.ofNat code = c ∧ rest' = rest := by simpa using h
      rw [leadByte] at hlead
      split at hlead
      · cases hlead
      split at hlead
      · cases hlead
        obtain ⟨x, _, rfl, hx, hread⟩ := continuation_succ_eq_some hread
        obtain ⟨rfl, rfl⟩ := continuation_zero_eq_some hread
        rw [encodeChar_two (by omega) hx]
        rfl
      split at hlead
      · cases hlead
        obtain ⟨x, _, rfl, hx, hread⟩ := continuation_succ_eq_some hread
        obtain ⟨y, _, rfl, hy, hread⟩ := continuation_succ_eq_some hread
        obtain ⟨rfl, rfl⟩ := continuation_zero_eq_some hread
        rw [encodeChar_three (by omega) hx hy]
        rfl
      split at hlead
      · cases hlead
        obtain ⟨x, _, rfl, hx, hread⟩ := continuation_succ_eq_some hread
        obtain ⟨y, _, rfl, hy, hread⟩ := continuation_succ_eq_some hread
        obtain ⟨z, _, rfl, hz, hread⟩ := continuation_succ_eq_some hread
        obtain ⟨rfl, rfl⟩ := continuation_zero_eq_some hread
        rw [encodeChar_four (by omega) hx hy hz]
        rfl
      · cases hlead

lemma decodeFirst_eq_some_iff {b : UInt8} {bytes rest : List UInt8} {c : Char} :
    decodeFirst b bytes = (some c, rest) ↔ b :: bytes = encodeChar c ++ rest := by
  refine ⟨eq_encodeChar_of_decodeFirst, fun h => ?_⟩
  obtain ⟨b', tail, hc, hfirst⟩ := decodeFirst_encodeChar c rest
  obtain ⟨rfl, rfl⟩ : b = b' ∧ bytes = tail ++ rest := by simpa [hc] using h
  exact hfirst

/-! ### Texts -/

lemma decodeParts_nil : decodeParts [] = [] := by rw [decodeParts]

lemma decodeParts_cons (b : UInt8) (bytes : List UInt8) :
    decodeParts (b :: bytes) =
      (decodeFirst b bytes).1 :: decodeParts (decodeFirst b bytes).2 := by rw [decodeParts]

lemma decodeParts_eq_map_some_iff {bytes : List UInt8} {t : Text} :
    decodeParts bytes = t.map some ↔ bytes = encode t := by
  induction t generalizing bytes with
  | nil =>
    cases bytes with
    | nil => simp [decodeParts_nil, encode]
    | cons b bytes => simp [decodeParts_cons, encode]
  | cons c t ih =>
    have hencode : encode (c :: t) = encodeChar c ++ encode t := List.flatMap_cons
    rw [hencode]
    cases bytes with
    | nil =>
      obtain ⟨b', tail, hc, -⟩ := decodeFirst_encodeChar c []
      simp [decodeParts_nil, hc]
    | cons b bytes =>
      rw [decodeParts_cons, List.map_cons, List.cons.injEq, ih, ← decodeFirst_eq_some_iff,
        Prod.ext_iff]

lemma mapM_id_eq_some_iff {α : Type} {parts : List (Option α)} {t : List α} :
    parts.mapM id = some t ↔ parts = t.map some := by
  induction parts generalizing t with
  | nil => cases t <;> simp
  | cons part parts ih =>
    rw [List.mapM_cons]
    simp only [id, Option.bind_eq_bind, Option.bind_eq_some_iff, ih, Option.pure_def,
      Option.some.injEq]
    constructor
    · rintro ⟨c, rfl, _, rfl, rfl⟩
      rfl
    · intro h
      cases t with
      | nil => cases h
      | cons c t =>
        obtain ⟨rfl, rfl⟩ := List.cons.inj h
        exact ⟨c, rfl, t, rfl, rfl⟩

/-- Reading is strict: a text is read from its own bytes and from no others. -/
theorem decode?_eq_some_iff {bytes : List UInt8} {t : Text} :
    decode? bytes = some t ↔ bytes = encode t := by
  rw [decode?, mapM_id_eq_some_iff, decodeParts_eq_map_some_iff]

end Pseudocode.Text
