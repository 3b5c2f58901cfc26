import Mathlib.Algebra.Order.Ring.Nat
import Mathlib.Data.Nat.Dist
import Mathlib.Tactic.LinearCombination
import Pseudocode.Toml.Float

/-!
# Rounding of numbers with a fraction

A decimal is read as the number with 53 binary digits that is nearest to it, and what is far out of
range or far below the least number is no exception.
-/

namespace Pseudocode.Toml
namespace Float

/-- A whole multiple of the least number that has 53 binary digits. -/
def IsDouble (x : Nat) : Prop := ∃ m e, m < 2 ^ 53 ∧ x = m * 2 ^ e

/-- No number with 53 binary digits is nearer to `n / d` than `x`, which is one, and if another one
is as near, then `x` is an even multiple of the distance of numbers there. -/
structure IsNearest (n d x : Nat) : Prop where
  isDouble : IsDouble x
  dist_le : ∀ y, IsDouble y → Nat.dist n (d * x) ≤ Nat.dist n (d * y)
  even_of_eq : ∀ y, IsDouble y → Nat.dist n (d * x) = Nat.dist n (d * y) → y ≠ x →
    2 ∣ x / step n d

variable {n d x y : Nat}

/-! ### Whole multiples -/

lemma roundEven_cases (n d : Nat) :
    roundEven n d = n / d ∧ 2 * (n % d) ≤ d ∧ (2 * (n % d) = d → 2 ∣ n / d) ∨
      roundEven n d = n / d + 1 ∧ d ≤ 2 * (n % d) ∧ (2 * (n % d) = d → 2 ∣ n / d + 1) := by
  rw [roundEven]
  split
  · left
    omega
  · right
    omega

/-- A multiple of `d` is at most the one below `n`, or at least the one above. -/
lemma mul_le_or_le_mul (n d k : Nat) :
    d * k ≤ d * (n / d) ∨ d * (n / d) + d ≤ d * k := by
  rcases Nat.lt_or_ge (n / d) k with h | h
  · exact .inr (Nat.mul_le_mul_left d h)
  · exact .inl (Nat.mul_le_mul_left d h)

lemma dist_roundEven_le (n k : Nat) (hd : 0 < d) :
    Nat.dist n (d * roundEven n d) ≤ Nat.dist n (d * k) := by
  have hn := Nat.div_add_mod n d
  have hmod := Nat.mod_lt n hd
  have hk := mul_le_or_le_mul n d k
  rcases roundEven_cases n d with ⟨hround, hhalf, -⟩ | ⟨hround, hhalf, -⟩
  · rw [hround]
    unfold Nat.dist
    omega
  · rw [hround, Nat.mul_succ]
    unfold Nat.dist
    omega

lemma even_roundEven_of_dist_eq {k : Nat} (hd : 0 < d)
    (hdist : Nat.dist n (d * roundEven n d) = Nat.dist n (d * k)) (hne : k ≠ roundEven n d) :
    2 ∣ roundEven n d := by
  have hn := Nat.div_add_mod n d
  have hmod := Nat.mod_lt n hd
  have hk := mul_le_or_le_mul n d k
  have hcancel (i : Nat) (h : d * k = d * i) : k = i := Nat.eq_of_mul_eq_mul_left hd h
  rcases roundEven_cases n d with ⟨hround, hhalf, heven⟩ | ⟨hround, hhalf, heven⟩
  · rw [hround] at hdist hne ⊢
    have hk' : d * k ≠ d * (n / d) := fun h => hne (hcancel _ h)
    unfold Nat.dist at hdist
    exact heven (by omega)
  · rw [hround] at hdist hne ⊢
    have hk' : d * k ≠ d * (n / d + 1) := fun h => hne (hcancel _ h)
    rw [Nat.mul_succ] at hdist hk'
    unfold Nat.dist at hdist
    exact heven (by omega)

/-! ### Numbers with 53 binary digits -/

lemma step_eq (n d : Nat) : step n d = 2 ^ ((n / d).log2 - 52) := rfl

lemma step_pos (n d : Nat) : 0 < step n d := Nat.pow_pos (by decide)

lemma div_lt_step (n d : Nat) : n / d < 2 ^ 53 * step n d := by
  have hlog : n / d < 2 ^ ((n / d).log2 + 1) := Nat.lt_log2_self
  have hpow : 2 ^ ((n / d).log2 + 1) ≤ 2 ^ (53 + ((n / d).log2 - 52)) :=
    Nat.pow_le_pow_right (by decide) (by omega)
  exact hlog.trans_le (hpow.trans_eq (pow_add ..))

lemma le_div_of_step_ne_one (h : step n d ≠ 1) : 2 ^ 52 * step n d ≤ n / d := by
  have hlog : 52 < (n / d).log2 := by
    by_contra hlog
    exact h (by rw [step_eq, Nat.sub_eq_zero_of_le (Nat.le_of_not_lt hlog), pow_zero])
  have hpos : n / d ≠ 0 := by
    intro hzero
    rw [hzero] at hlog
    exact absurd hlog (by decide)
  have hpow : 2 ^ 52 * step n d = 2 ^ (n / d).log2 := by
    rw [step_eq, ← pow_add, Nat.add_sub_cancel' hlog.le]
  exact hpow ▸ Nat.log2_self_le hpos

lemma nearest_eq (n d : Nat) : nearest n d = roundEven n (d * step n d) * step n d := rfl

lemma isDouble_nearest (n d : Nat) : IsDouble (nearest n d) := by
  have hdiv : n / (d * step n d) < 2 ^ 53 := by
    rw [← Nat.div_div_eq_div_mul, Nat.div_lt_iff_lt_mul (step_pos n d)]
    exact div_lt_step n d
  have hround : roundEven n (d * step n d) ≤ 2 ^ 53 := by
    rcases roundEven_cases n (d * step n d) with ⟨h, -⟩ | ⟨h, -⟩ <;> omega
  rcases hround.lt_or_eq with hlt | heq
  · exact ⟨_, _, hlt, rfl⟩
  · refine ⟨2 ^ 52, (n / d).log2 - 52 + 1, by decide, ?_⟩
    rw [nearest_eq, heq, step_eq, pow_succ]
    omega

/-- A number with 53 binary digits is a multiple of the distance of numbers next to `n / d`, or such
a multiple stands between. -/
lemma IsDouble.step_dvd_or (hx : IsDouble x) (n d : Nat) :
    step n d ∣ x ∨ x < 2 ^ 52 * step n d ∧ 2 ^ 52 * step n d ≤ n / d := by
  obtain ⟨m, e, hm, rfl⟩ := hx
  rcases Nat.lt_or_ge e ((n / d).log2 - 52) with he | he
  · right
    have hstep : 2 * 2 ^ e ≤ step n d := by
      rw [← pow_succ']
      exact Nat.pow_le_pow_right (by decide) he
    have hpos : 0 < 2 ^ e := Nat.pow_pos (by decide)
    have hlt : m * 2 ^ e < 2 ^ 53 * 2 ^ e := Nat.mul_lt_mul_of_pos_right hm hpos
    exact ⟨by omega, le_div_of_step_ne_one (by omega)⟩
  · exact .inl ((pow_dvd_pow 2 he).mul_left m)

theorem isNearest_nearest (n : Nat) (hd : 0 < d) : IsNearest n d (nearest n d) := by
  have hstep : 0 < d * step n d := Nat.mul_pos hd (step_pos n d)
  have hnearest : d * nearest n d = d * step n d * roundEven n (d * step n d) := by
    rw [nearest_eq, mul_comm (roundEven _ _), mul_assoc]
  have hsmall (y : Nat) (hy : y < 2 ^ 52 * step n d) (hle : 2 ^ 52 * step n d ≤ n / d) :
      Nat.dist n (d * nearest n d) < Nat.dist n (d * y) := by
    have hbetween := dist_roundEven_le n (2 ^ 52) hstep
    have hmul : d * step n d * 2 ^ 52 = d * (2 ^ 52 * step n d) := by
      rw [mul_assoc, mul_comm (step n d)]
    have hlt : d * y < d * (2 ^ 52 * step n d) := Nat.mul_lt_mul_of_pos_left hy hd
    have hn : d * (2 ^ 52 * step n d) ≤ n :=
      (Nat.mul_le_mul_left d hle).trans (Nat.mul_div_le n d)
    rw [hnearest]
    rw [hmul] at hbetween
    unfold Nat.dist at hbetween ⊢
    omega
  refine ⟨isDouble_nearest n d, fun y hy => ?_, fun y hy hdist hne => ?_⟩
  · rcases hy.step_dvd_or n d with ⟨k, rfl⟩ | ⟨hlt, hle⟩
    · rw [hnearest, ← mul_assoc]
      exact dist_roundEven_le n k hstep
    · exact (hsmall y hlt hle).le
  · rcases hy.step_dvd_or n d with ⟨k, rfl⟩ | ⟨hlt, hle⟩
    · rw [hnearest, ← mul_assoc] at hdist
      rw [nearest_eq, Nat.mul_div_cancel _ (step_pos n d)]
      refine even_roundEven_of_dist_eq hstep hdist fun hk => hne ?_
      rw [nearest_eq, hk, mul_comm]
    · exact absurd hdist (hsmall y hlt hle).ne

lemma nearest_of_isDouble (hx : IsDouble x) (hd : 0 < d) : nearest (d * x) d = x := by
  have hdist := (isNearest_nearest (d * x) hd).dist_le x hx
  have hmul : d * nearest (d * x) d = d * x := by
    unfold Nat.dist at hdist
    omega
  exact Nat.eq_of_mul_eq_mul_left hd hmul

lemma roundEven_mul_right {k : Nat} (n d : Nat) (hk : 0 < k) :
    roundEven (n * k) (d * k) = roundEven n d := by
  have hdouble (m : Nat) : 2 * (m * k) = 2 * m * k := (mul_assoc ..).symm
  simp only [roundEven, Nat.mul_mod_mul_right, Nat.mul_div_mul_right _ _ hk, hdouble,
    Nat.mul_lt_mul_right hk, Nat.mul_left_inj hk.ne']

lemma nearest_mul_right {k : Nat} (n d : Nat) (hk : 0 < k) :
    nearest (n * k) (d * k) = nearest n d := by
  have hstep : step (n * k) (d * k) = step n d := by
    rw [step_eq, step_eq, Nat.mul_div_mul_right _ _ hk]
  rw [nearest_eq, nearest_eq, hstep, mul_right_comm, roundEven_mul_right _ _ hk]

/-- What is nearest depends on the quotient alone. -/
lemma nearest_congr {n' d' : Nat} (hd : 0 < d) (hd' : 0 < d') (h : n * d' = n' * d) :
    nearest n d = nearest n' d' := by
  rw [← nearest_mul_right n d hd', h, mul_comm d, nearest_mul_right n' d' hd]

lemma nearest_eq_zero (h : 2 * n < d) : nearest n d = 0 := by
  have hdiv : n / d = 0 := Nat.div_eq_of_lt (by omega)
  have hstep : step n d = 1 := by
    rw [step_eq, hdiv]
    rfl
  have hround : roundEven n d = 0 := by
    rcases roundEven_cases n d with ⟨hround, -⟩ | ⟨-, hhalf, -⟩
    · rw [hround, hdiv]
    · rw [Nat.mod_eq_of_lt (by omega)] at hhalf
      omega
  rw [nearest_eq, hstep, Nat.mul_one, Nat.mul_one, hround]

lemma le_nearest (hx : IsDouble x) (hd : 0 < d) (h : d * x ≤ n) : x ≤ nearest n d := by
  have hdist := (isNearest_nearest n hd).dist_le x hx
  by_contra hlt
  have hmul : d * nearest n d < d * x := Nat.mul_lt_mul_of_pos_left (by omega) hd
  unfold Nat.dist at hdist
  omega

/-! ### Decimals -/

/-- What is nearest to digits with an exponent of ten. -/
def ofExact (digits : Nat) (exponent : Int) : Nat :=
  nearest (digits * 10 ^ exponent.toNat * unit) (10 ^ (-exponent).toNat)

lemma ofNat_eq_toDigits (n : Nat) : Text.ofNat n = Nat.toDigits 10 n := by
  rw [Text.ofNat, Nat.repr_eq_ofList_toDigits, String.toList_ofList]

lemma lt_pow_length (n : Nat) : n < 10 ^ (Text.ofNat n).length := by
  rw [ofNat_eq_toDigits, ← Nat.length_toDigits_le_iff (by decide) Nat.length_toDigits_pos]

lemma pow_length_le (hn : n ≠ 0) : 10 ^ ((Text.ofNat n).length - 1) ≤ n := by
  rw [ofNat_eq_toDigits]
  rcases Nat.eq_zero_or_pos ((Nat.toDigits 10 n).length - 1) with h | h
  · rw [h, pow_zero]
    omega
  · by_contra hlt
    have hlength := (Nat.length_toDigits_le_iff (by decide) h).mpr (Nat.lt_of_not_le hlt)
    omega

lemma two_pow_le_ten_pow {k l : Nat} (h : k ≤ 3 * l) : 2 ^ k ≤ 10 ^ l := by
  calc 2 ^ k ≤ 2 ^ (3 * l) := Nat.pow_le_pow_right (by decide) h
    _ = (2 ^ 3) ^ l := pow_mul ..
    _ ≤ 10 ^ l := Nat.pow_le_pow_left (by decide) l

lemma pow_eq (b k : Nat) : Nat.pow b k = b ^ k := rfl

lemma unit_eq : unit = 2 ^ 1074 := by
  unfold unit
  exact pow_eq 2 1074

lemma bound_eq : bound = 2 ^ (1024 + 1074) := by
  unfold bound
  exact pow_eq 2 (1024 + 1074)

lemma bound_pos : 0 < bound := by
  rw [bound_eq]
  exact Nat.pow_pos (by decide)

lemma isDouble_bound : IsDouble bound :=
  ⟨1, 1024 + 1074, by decide, by rw [bound_eq, Nat.one_mul]⟩

lemma ofExact_eq_zero {digits : Nat} {exponent : Int}
    (h : exponent + (Text.ofNat digits).length < -400) : ofExact digits exponent = 0 := by
  refine nearest_eq_zero ?_
  have hexponent : exponent.toNat = 0 := by omega
  have hlength : (Text.ofNat digits).length + 400 ≤ (-exponent).toNat := by omega
  calc 2 * (digits * 10 ^ exponent.toNat * unit) = digits * 2 ^ (1 + 1074) := by
        rw [hexponent, pow_zero, mul_one, mul_left_comm, unit_eq, pow_add, pow_one]
    _ < 10 ^ (Text.ofNat digits).length * 2 ^ (1 + 1074) :=
        Nat.mul_lt_mul_of_pos_right (lt_pow_length digits) (Nat.pow_pos (by decide))
    _ ≤ 10 ^ (Text.ofNat digits).length * 10 ^ 400 :=
        Nat.mul_le_mul_left _ (two_pow_le_ten_pow (by decide))
    _ = 10 ^ ((Text.ofNat digits).length + 400) := (pow_add ..).symm
    _ ≤ 10 ^ (-exponent).toNat := Nat.pow_le_pow_right (by decide) hlength

lemma bound_le_ofExact {digits : Nat} {exponent : Int} (hdigits : digits ≠ 0)
    (h : exponent + (Text.ofNat digits).length > 400) : bound ≤ ofExact digits exponent := by
  refine le_nearest isDouble_bound (Nat.pow_pos (by decide)) ?_
  have hlength : (-exponent).toNat + 400 ≤
      (Text.ofNat digits).length - 1 + exponent.toNat := by omega
  calc 10 ^ (-exponent).toNat * bound = 10 ^ (-exponent).toNat * 2 ^ 1024 * unit := by
        rw [bound_eq, unit_eq, pow_add 2 1024, mul_assoc]
    _ ≤ 10 ^ (-exponent).toNat * 10 ^ 400 * unit :=
        Nat.mul_le_mul_right _ (Nat.mul_le_mul_left _ (two_pow_le_ten_pow (by decide)))
    _ ≤ 10 ^ ((Text.ofNat digits).length - 1) * 10 ^ exponent.toNat * unit := by
        rw [← pow_add, ← pow_add]
        exact Nat.mul_le_mul_right _ (Nat.pow_le_pow_right (by decide) hlength)
    _ ≤ digits * 10 ^ exponent.toNat * unit :=
        Nat.mul_le_mul_right _ (Nat.mul_le_mul_right _ (pow_length_le hdigits))

/-- A decimal is read as what is nearest to it, unless that is out of range; what need not be
computed is no exception. -/
theorem ofDecimal?_eq (digits : Nat) (exponent : Int) :
    ofDecimal? digits exponent =
      if ofExact digits exponent < bound then some (ofExact digits exponent) else none := by
  rw [ofDecimal?]
  dsimp only
  split
  · next h =>
    have hzero : ofExact digits exponent = 0 := by
      rcases h with rfl | hsize
      · rw [ofExact, Nat.zero_mul, Nat.zero_mul]
        exact nearest_eq_zero (Nat.pow_pos (by decide))
      · exact ofExact_eq_zero hsize
    rw [hzero, if_pos bound_pos]
  · next h =>
    split
    · next hsize =>
      rw [if_neg (Nat.not_lt.mpr (bound_le_ofExact (fun hzero => h (.inl hzero)) hsize))]
    · rfl

lemma ofExact_mul_pow (digits j : Nat) (exponent : Int) :
    ofExact (digits * 10 ^ j) (exponent - j) = ofExact digits exponent := by
  refine nearest_congr (Nat.pow_pos (by decide)) (Nat.pow_pos (by decide)) ?_
  have hexponents : j + (exponent - j).toNat + (-exponent).toNat =
      exponent.toNat + (-(exponent - j)).toNat := by omega
  have hpow := congrArg (10 ^ ·) hexponents
  simp only [pow_add] at hpow
  linear_combination digits * unit * hpow

/-- A decimal between two numbers, and one that is out of range. -/
example : ofDecimal? 90071992547409930 (-1) = some (9007199254740992 * unit) ∧
    ofDecimal? 1 309 = none := by
  decide +kernel

/-- What is read of a decimal has 53 binary digits, is in range, and is nearest to it. -/
lemma isNearest_of_ofDecimal? {digits : Nat} {exponent : Int}
    (h : ofDecimal? digits exponent = some x) : x < bound ∧
      IsNearest (digits * 10 ^ exponent.toNat * unit) (10 ^ (-exponent).toNat) x := by
  rw [ofDecimal?_eq] at h
  split at h
  · next hbound =>
    cases h
    exact ⟨hbound, isNearest_nearest _ (Nat.pow_pos (by decide))⟩
  · cases h

end Float
end Pseudocode.Toml
