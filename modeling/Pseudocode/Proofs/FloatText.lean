import Mathlib.Data.List.Basic
import Mathlib.Data.List.TakeWhile
import Pseudocode.Proofs.FloatRounding
import Pseudocode.Toml.Scalar

/-!
# Numbers with a fraction as shown

The digits that are shown for a number are read as that number, with the point and the zeros that are
put among them.
-/

namespace Pseudocode.Toml
namespace Float

variable {x : Nat}

/-! ### The fewest digits -/

lemma ofDecimal?_of_digitsAt? {g g' : Int} {digits : Nat}
    (h : digitsAt? x g = some (digits, g')) : ofDecimal? digits g' = some x := by
  simp only [digitsAt?] at h
  split at h
  · next hbelow =>
    cases h
    exact eq_of_beq (Bool.and_elim_left hbelow)
  · split at h
    · next habove =>
      cases h
      exact eq_of_beq habove
    · cases h

/-- With enough digits after the point a number is written exactly. -/
lemma isSome_digitsAt? (hx : IsDouble x) (hbound : x < bound) {k : Nat} (hk : unit ∣ 10 ^ k) :
    (digitsAt? x (-k)).isSome := by
  have hexact : x * 10 ^ k / unit * unit = x * 10 ^ k := Nat.div_mul_cancel (hk.mul_left x)
  have hread : ofDecimal? (x * 10 ^ k / unit) (-k) = some x := by
    have hvalue : ofExact (x * 10 ^ k / unit) (-k) = x := by
      rw [ofExact, Int.toNat_neg_natCast, pow_zero, mul_one, hexact, neg_neg, Int.toNat_natCast,
        mul_comm]
      exact nearest_of_isDouble hx (Nat.pow_pos (by decide))
    rw [ofDecimal?_eq, hvalue, if_pos hbound]
  have hmod : x * 10 ^ k % unit = 0 := Nat.mod_eq_zero_of_dvd (hk.mul_left x)
  have hunit : 0 < unit := Nat.pow_pos (by decide)
  have hfirst : (ofDecimal? (x * 10 ^ k / unit) (-k) == some x &&
      (decide (2 * (x * 10 ^ k % unit) < unit) ||
        !ofDecimal? (x * 10 ^ k / unit + 1) (-k) == some x)) = true := by
    simp [hread, hmod, hunit]
  simp only [digitsAt?, neg_neg, Int.toNat_natCast, Int.toNat_neg_natCast, pow_eq, pow_zero, mul_one]
  rw [if_pos hfirst]
  rfl

/-- The digits that are shown for a number are read as that number. -/
lemma ofDecimal?_shortest (hx : IsDouble x) (hbound : x < bound) :
    ofDecimal? (shortest x).1 (shortest x).2 = some x := by
  have hunit : unit ∣ 10 ^ 1074 := by
    rw [unit_eq]
    exact pow_dvd_pow_of_dvd (by decide) 1074
  have hsome : ((List.range 1384).findSome? fun i : Nat => digitsAt? x (309 - i)).isSome := by
    have hleast : (309 : Int) - (1383 : Nat) = -(1074 : Nat) := by decide
    rw [List.findSome?_isSome_iff]
    exact ⟨1383, by simp, by rw [hleast]; exact isSome_digitsAt? hx hbound hunit⟩
  obtain ⟨found, hfound⟩ := Option.isSome_iff_exists.mp hsome
  obtain ⟨i, -, hdigits⟩ := List.exists_of_findSome?_eq_some hfound
  rw [shortest, hfound]
  exact ofDecimal?_of_digitsAt? hdigits

/-! ### Digits with a point -/

lemma decimalValue_eq (t : Text) : Text.decimalValue t = Nat.ofDigitChars 10 t 0 :=
  Nat.ofDigitChars_eq_foldl.symm

lemma decimalValue_append (t rest : Text) :
    Text.decimalValue (t ++ rest) =
      10 ^ rest.length * Text.decimalValue t + Text.decimalValue rest := by
  simp only [decimalValue_eq, Nat.ofDigitChars_append]
  exact Nat.ofDigitChars_eq_ofDigitChars_zero

lemma decimalValue_replicate (k : Nat) : Text.decimalValue (List.replicate k '0') = 0 := by
  rw [decimalValue_eq, Nat.ofDigitChars_replicate_zero, Nat.mul_zero]

lemma decimalValue_ofNat (n : Nat) : Text.decimalValue (Text.ofNat n) = n := by
  rw [decimalValue_eq, ofNat_eq_toDigits, Nat.ofDigitChars_ten_toDigits]

/-- What is nearest to a decimal with the given digits before and after its point. -/
def ofParts (whole fraction : Text) : Nat :=
  ofExact (Text.decimalValue (whole ++ fraction)) (-fraction.length)

/-- Zeros are put where the point is beyond the digits. -/
lemma ofParts_cut (digits : Text) (exponent point : Int) (hpoint : point = digits.length + exponent) :
    ofParts (digits.take point.toNat ++ List.replicate (point.toNat - digits.length) '0')
      (List.replicate (-point).toNat '0' ++ digits.drop point.toNat) =
        ofExact (Text.decimalValue digits) exponent := by
  rcases Int.le_total 0 exponent with h | h
  · obtain ⟨k, rfl⟩ := Int.eq_ofNat_of_zero_le h
    have hwhole : digits.length ≤ point.toNat := by omega
    have hzeros : point.toNat - digits.length = k := by omega
    have hnone : (-point).toNat = 0 := by omega
    rw [ofParts, List.take_of_length_le hwhole, List.drop_of_length_le hwhole, hzeros, hnone,
      List.replicate_zero, List.append_nil, List.append_nil, decimalValue_append,
      decimalValue_replicate, List.length_replicate, mul_comm, Nat.add_zero, List.length_nil]
    have hscale := ofExact_mul_pow (Text.decimalValue digits) k k
    rwa [sub_self] at hscale
  · have hnone : point.toNat - digits.length = 0 := by omega
    have hvalue : Text.decimalValue (digits.take point.toNat ++
        (List.replicate (-point).toNat '0' ++ digits.drop point.toNat)) =
          Text.decimalValue digits := by
      rcases Int.le_total 0 point with hp | hp
      · have hzeros : (-point).toNat = 0 := by omega
        rw [hzeros, List.replicate_zero, List.nil_append, List.take_append_drop]
      · rw [Int.toNat_of_nonpos hp, List.take_zero, List.nil_append, List.drop_zero,
          decimalValue_append, decimalValue_replicate, Nat.mul_zero, Nat.zero_add]
    have hlength : (-((List.replicate (-point).toNat '0' ++ digits.drop point.toNat).length : Nat) :
        Int) = exponent := by
      simp only [List.length_append, List.length_replicate, List.length_drop]
      omega
    rw [ofParts, hnone, List.replicate_zero, List.append_nil, hvalue, hlength]

lemma exists_zeros_append (t : Text) :
    ∃ k, t = List.replicate k '0' ++ t.dropWhile (· == '0') := by
  have hzeros : ∀ c ∈ t.takeWhile (· == '0'), c = '0' := by
    intro c hc
    have hzero := List.mem_takeWhile_imp hc
    exact eq_of_beq hzero
  refine ⟨(t.takeWhile (· == '0')).length, ?_⟩
  rw [← List.eq_replicate_of_mem hzeros]
  exact List.takeWhile_append_dropWhile.symm

lemma exists_append_zeros (t : Text) :
    ∃ k, t = Text.dropEndWhile (· == '0') t ++ List.replicate k '0' := by
  obtain ⟨k, hk⟩ := exists_zeros_append t.reverse
  refine ⟨k, List.reverse_injective ?_⟩
  rwa [List.reverse_append, List.reverse_replicate, Text.dropEndWhile, List.reverse_reverse]

lemma ofParts_dropWhile (whole fraction : Text) :
    ofParts (whole.dropWhile (· == '0')) fraction = ofParts whole fraction := by
  obtain ⟨k, hk⟩ := exists_zeros_append whole
  have hvalue : Text.decimalValue (whole ++ fraction) =
      Text.decimalValue (whole.dropWhile (· == '0') ++ fraction) := by
    conv_lhs => rw [hk]
    rw [List.append_assoc, decimalValue_append, decimalValue_replicate, Nat.mul_zero, Nat.zero_add]
  rw [ofParts, ofParts, hvalue]

lemma ofParts_dropEndWhile (whole fraction : Text) :
    ofParts whole (Text.dropEndWhile (· == '0') fraction) = ofParts whole fraction := by
  obtain ⟨k, hk⟩ := exists_append_zeros fraction
  have hvalue : Text.decimalValue (whole ++ fraction) =
      Text.decimalValue (whole ++ Text.dropEndWhile (· == '0') fraction) * 10 ^ k := by
    conv_lhs => rw [hk]
    rw [← List.append_assoc, decimalValue_append, decimalValue_replicate, List.length_replicate,
      Nat.add_zero, mul_comm]
  have hlength : (-(fraction.length : Nat) : Int) =
      -((Text.dropEndWhile (· == '0') fraction).length : Nat) - (k : Nat) := by
    have hlength := congrArg List.length hk
    rw [List.length_append, List.length_replicate] at hlength
    omega
  rw [ofParts, ofParts, hvalue, hlength, ofExact_mul_pow]

lemma ofParts_zero (fraction : Text) : ofParts ['0'] fraction = ofParts [] fraction := by
  have hvalue : Text.decimalValue (['0'] ++ fraction) = Text.decimalValue ([] ++ fraction) := by
    rw [decimalValue_append]
    exact Nat.zero_add _
  rw [ofParts, ofParts, hvalue]

/-- A decimal is shown by digits before and after a point, and without a point if no digits come
after it. -/
lemma decimalText_eq (digits : Text) (exponent point : Int)
    (hpoint : point = digits.length + exponent) (hdigits : ∀ c ∈ digits, Text.isAsciiDigit c = true) :
    ∃ whole fraction, decimalText digits point =
        whole ++ (if fraction.isEmpty then [] else '.' :: fraction) ∧
      whole ≠ [] ∧ (∀ c ∈ whole ++ fraction, Text.isAsciiDigit c = true) ∧
      ofParts whole fraction = ofExact (Text.decimalValue digits) exponent := by
  let whole := digits.take point.toNat ++ List.replicate (point.toNat - digits.length) '0'
  let fraction := List.replicate (-point).toNat '0' ++ digits.drop point.toNat
  have hzeros (k : Nat) : ∀ c ∈ List.replicate k '0', Text.isAsciiDigit c = true := by
    intro c hc
    rw [List.eq_of_mem_replicate hc]
    decide
  have hwhole : ∀ c ∈ whole.dropWhile (· == '0'), Text.isAsciiDigit c = true := by
    intro c hc
    have hc := (List.dropWhile_suffix _).subset hc
    rcases List.mem_append.mp hc with hc | hc
    · exact hdigits c (List.mem_of_mem_take hc)
    · exact hzeros _ c hc
  have hfraction : ∀ c ∈ Text.dropEndWhile (· == '0') fraction, Text.isAsciiDigit c = true := by
    intro c hc
    obtain ⟨k, hk⟩ := exists_append_zeros fraction
    have hc : c ∈ fraction := hk ▸ List.mem_append_left _ hc
    rcases List.mem_append.mp hc with hc | hc
    · exact hzeros _ c hc
    · exact hdigits c (List.mem_of_mem_drop hc)
  have hvalue : ofParts (whole.dropWhile (· == '0')) (Text.dropEndWhile (· == '0') fraction) =
      ofExact (Text.decimalValue digits) exponent := by
    rw [ofParts_dropEndWhile, ofParts_dropWhile, ofParts_cut digits exponent point hpoint]
  refine ⟨if (whole.dropWhile (· == '0')).isEmpty then ['0'] else whole.dropWhile (· == '0'),
    Text.dropEndWhile (· == '0') fraction, rfl, ?_⟩
  split
  · next h =>
    rw [List.isEmpty_iff.mp h] at hvalue
    exact ⟨by simp, by simpa using ⟨by decide, hfraction⟩, (ofParts_zero _).trans hvalue⟩
  · next h =>
    exact ⟨fun hnil => h (List.isEmpty_iff.mpr hnil),
      fun c hc => (List.mem_append.mp hc).elim (hwhole c) (hfraction c), hvalue⟩

lemma shown_eq_decimalText (x : Nat) :
    shown x = decimalText (Text.ofNat (shortest x).1)
      ((Text.ofNat (shortest x).1).length + (shortest x).2) := by
  unfold shown
  generalize shortest x = found
  rfl

lemma isAsciiDigit_of_mem_ofNat {n : Nat} {c : Char} (hc : c ∈ Text.ofNat n) :
    Text.isAsciiDigit c = true := by
  rw [ofNat_eq_toDigits] at hc
  exact Nat.isDigit_of_mem_toDigits (by decide) (by decide) hc

/-- A number is shown by digits that are read as that number. -/
theorem shown_eq (hx : IsDouble x) (hbound : x < bound) :
    ∃ whole fraction, shown x = whole ++ (if fraction.isEmpty then [] else '.' :: fraction) ∧
      whole ≠ [] ∧ (∀ c ∈ whole ++ fraction, Text.isAsciiDigit c = true) ∧
      ofDecimal? (Text.decimalValue (whole ++ fraction)) (-fraction.length) = some x := by
  have hread := ofDecimal?_shortest hx hbound
  obtain ⟨whole, fraction, htext, hwhole, hdigits, hvalue⟩ :=
    decimalText_eq (Text.ofNat (shortest x).1) (shortest x).2 _ rfl
      fun c hc => isAsciiDigit_of_mem_ofNat hc
  refine ⟨whole, fraction, (shown_eq_decimalText x).trans htext, hwhole, hdigits, ?_⟩
  rw [decimalValue_ofNat] at hvalue
  rw [ofDecimal?_eq, ← hvalue] at hread
  rw [ofDecimal?_eq]
  exact hread

end Float

/-- A number with a fraction or an exponent that is read has a text that is read as that number, or
it is infinite or none at all. -/
theorem float?_cases {word : Text} {v : Value} (h : float? word = some v) :
    v = .float "NaN".toList ∨ ∃ sign, (sign = [] ∨ sign = ['-']) ∧
      (v = .float (sign ++ "inf".toList) ∨
        ∃ x, Float.IsDouble x ∧ x < Float.bound ∧ v = .float (sign ++ Float.shown x)) := by
  have hsign : (if (splitSign word).1 then ['-'] else []) = ([] : Text) ∨
      (if (splitSign word).1 then ['-'] else []) = ['-'] := by
    split <;> simp
  have hsome {digits x : Nat} {exponent : Int} (hx : Float.ofDecimal? digits exponent = some x)
      (hv : some (Value.float ((if (splitSign word).1 then ['-'] else []) ++ Float.shown x)) =
        some v) : ∃ sign, (sign = [] ∨ sign = ['-']) ∧ (v = .float (sign ++ "inf".toList) ∨
        ∃ x, Float.IsDouble x ∧ x < Float.bound ∧ v = .float (sign ++ Float.shown x)) := by
    obtain ⟨hbound, hnearest⟩ := Float.isNearest_of_ofDecimal? hx
    exact ⟨_, hsign, .inr ⟨x, hnearest.isDouble, hbound, (Option.some.inj hv).symm⟩⟩
  have hnone (hv : (if (splitSign word).1 then some (Value.float "-inf".toList) else none) =
      some v) : v = .float (['-'] ++ "inf".toList) := by
    split at hv
    · exact (Option.some.inj hv).symm
    · cases hv
  simp only [float?] at h
  split at h
  · cases h
    exact .inr ⟨_, hsign, .inl rfl⟩
  · split at h
    · cases h
      exact .inl rfl
    · obtain ⟨exponent, -, h⟩ := Option.bind_eq_some_iff.mp h
      obtain ⟨whole, -, h⟩ := Option.bind_eq_some_iff.mp h
      right
      split at h
      · split at h
        · cases h
        · obtain ⟨fraction, -, h⟩ := Option.bind_eq_some_iff.mp h
          split at h
          · next hx => exact hsome hx h
          · exact ⟨_, .inr rfl, .inl (hnone h)⟩
      · obtain ⟨fraction, -, h⟩ := Option.bind_eq_some_iff.mp h
        split at h
        · next hx => exact hsome hx h
        · exact ⟨_, .inr rfl, .inl (hnone h)⟩

end Pseudocode.Toml
