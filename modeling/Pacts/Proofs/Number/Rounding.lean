import Mathlib.Algebra.Order.Field.Power
import Mathlib.Data.Rat.Cast.Order
import Mathlib.Tactic.FieldSimp
import Mathlib.Tactic.Linarith
import Mathlib.Tactic.NormNum
import Mathlib.Tactic.Positivity
import Mathlib.Tactic.Ring
import Pacts.Number.Binary64

/-!
# Rounding to binary numbers

A fraction is rounded to the nearest multiple of a power of two.  `exponentFor` chooses the power
such that 53 bits are left (`exponentFor_spec`), and `ofRatio?` comes to nothing when even the
largest power leaves more.  So the error is at most one part in `2 ^ 53` (`abs_size_sub_le`), and
whether a fraction is too large can be told from the fraction (`isSome_ofRatio?`,
`ofRatio?_eq_none`).

A decimal is rounded after every step.  There are so few steps that a decimal that is not within one
part in `2 ^ 48` of the limit is told in the same way (`isSome_ofScaled?`, `ofScaled?_eq_none`).
-/

set_option autoImplicit false

namespace Pacts.Binary64

/-- The size of a number, without its sign. -/
def size (x : Binary64) : ℚ := x.mantissa * 2 ^ x.exponent

/-- What the numbers stay below. -/
def limit : ℚ := 2 ^ (1024 : ℤ)

/-- Half of the least number above zero. -/
def grain : ℚ := 2 ^ (-1075 : ℤ)

theorem limit_pos : 0 < limit := zpow_pos two_pos _

theorem grain_pos : 0 < grain := zpow_pos two_pos _

/-! ## The nearest integer -/

theorem roundDiv_bounds (num : ℕ) {den : ℕ} (hd : 0 < den) :
    2 * num ≤ 2 * (den * roundDiv num den) + den ∧
      2 * (den * roundDiv num den) ≤ 2 * num + den := by
  have hnum := Nat.div_add_mod num den
  have hr := Nat.mod_lt num hd
  have hup : den * (num / den + 1) = den * (num / den) + den := Nat.mul_succ _ _
  rw [roundDiv]
  split
  · omega
  · split
    · omega
    · -- half way, so it does not matter which of the two is taken
      rcases Nat.mod_two_eq_zero_or_one (num / den) with h | h
      · rw [h, Nat.add_zero]
        omega
      · rw [h]
        omega

theorem abs_roundDiv_sub_le (num : ℕ) {den : ℕ} (hd : 0 < den) :
    |(roundDiv num den : ℚ) - num / den| ≤ 1 / 2 := by
  obtain ⟨hlow, hhigh⟩ := roundDiv_bounds num hd
  have hden : (0 : ℚ) < den := by exact_mod_cast hd
  have hlow' : 2 * (num : ℚ) ≤ 2 * (den * roundDiv num den) + den := by exact_mod_cast hlow
  have hhigh' : 2 * ((den : ℚ) * roundDiv num den) ≤ 2 * num + den := by exact_mod_cast hhigh
  have hnum : (num : ℚ) / den * den = num := div_mul_cancel₀ _ hden.ne'
  rw [abs_le]
  constructor <;> nlinarith

/-! ## The exponent -/

/-- A quotient moved by a power of two, as the quotient of two natural numbers. -/
theorem div_shifted (num den : ℕ) (e : ℤ) :
    ((num * Nat.pow 2 (-e).toNat : ℕ) : ℚ) / (den * Nat.pow 2 e.toNat : ℕ) =
      num / den * 2 ^ (-e) := by
  simp only [Nat.pow_eq]
  push_cast
  rw [mul_div_mul_comm]
  congr 1
  rcases le_total 0 e with h | h
  · obtain ⟨k, rfl⟩ := Int.eq_ofNat_of_zero_le h
    simp
  · obtain ⟨k, hk⟩ := Int.eq_ofNat_of_zero_le (Int.neg_nonneg_of_nonpos h)
    rw [hk, Int.toNat_of_nonpos h]
    simp

theorem two_zpow_add (n : ℕ) (e : ℤ) : (2 : ℚ) ^ (e + n) = 2 ^ n * 2 ^ e := by
  rw [zpow_add₀ two_ne_zero, zpow_natCast, mul_comm]

/-- A comparison with a multiple of a power of two, as it is made without fractions. -/
theorem small_iff (num : ℕ) {den : ℕ} (hd : 0 < den) (e : ℤ) :
    (if 0 ≤ e then num < Nat.pow 2 52 * (den * Nat.pow 2 e.toNat)
      else num * Nat.pow 2 (-e).toNat < Nat.pow 2 52 * den) ↔
      (num : ℚ) / den < 2 ^ (e + 52) := by
  have hden : (0 : ℚ) < den := by exact_mod_cast hd
  have hsum : (2 : ℚ) ^ (e + 52) = 2 ^ 52 * 2 ^ e := two_zpow_add 52 e
  rw [div_lt_iff₀ hden, hsum]
  simp only [Nat.pow_eq]
  split
  · rename_i h
    obtain ⟨k, rfl⟩ := Int.eq_ofNat_of_zero_le h
    rw [← Nat.cast_lt (α := ℚ), mul_assoc, mul_comm (2 ^ (k : ℤ) : ℚ)]
    push_cast
    norm_num
  · rename_i h
    obtain ⟨k, hk⟩ := Int.eq_ofNat_of_zero_le (Int.neg_nonneg_of_nonpos (le_of_not_ge h))
    obtain rfl : e = -(k : ℤ) := by omega
    have hpow : (0 : ℚ) < 2 ^ k := by positivity
    rw [neg_neg, ← Nat.cast_lt (α := ℚ), zpow_neg, zpow_natCast, mul_right_comm, ← div_eq_mul_inv,
      lt_div_iff₀ hpow]
    push_cast
    norm_num

/-- The quotient of two numbers lies between the powers of two next to the quotient of their leading
bits. -/
theorem div_between_log2 {num den : ℕ} (hn : 0 < num) (hd : 0 < den) :
    (2 : ℚ) ^ ((Nat.log2 num : ℤ) - Nat.log2 den - 1) ≤ num / den ∧
      (num : ℚ) / den < 2 ^ ((Nat.log2 num : ℤ) - Nat.log2 den + 1) := by
  have hden : (0 : ℚ) < den := by exact_mod_cast hd
  have low : ∀ {n : ℕ}, 0 < n → (2 : ℚ) ^ (Nat.log2 n : ℤ) ≤ n := by
    intro n h
    rw [zpow_natCast]
    exact_mod_cast Nat.log2_self_le h.ne'
  have high : ∀ n : ℕ, (n : ℚ) < 2 ^ ((Nat.log2 n : ℤ) + 1) := by
    intro n
    have h : (n : ℚ) < 2 ^ (Nat.log2 n + 1) := by exact_mod_cast Nat.lt_log2_self
    exact_mod_cast h
  refine ⟨?_, ?_⟩
  · rw [le_div_iff₀ hden]
    calc (2 : ℚ) ^ ((Nat.log2 num : ℤ) - Nat.log2 den - 1) * den
        ≤ 2 ^ ((Nat.log2 num : ℤ) - Nat.log2 den - 1) * 2 ^ ((Nat.log2 den : ℤ) + 1) :=
          mul_le_mul_of_nonneg_left (high den).le (zpow_pos two_pos _).le
      _ = 2 ^ (Nat.log2 num : ℤ) := by rw [← zpow_add₀ two_ne_zero]; congr 1; ring
      _ ≤ num := low hn
  · rw [div_lt_iff₀ hden]
    calc (num : ℚ) < 2 ^ ((Nat.log2 num : ℤ) + 1) := high num
      _ = 2 ^ ((Nat.log2 num : ℤ) - Nat.log2 den + 1) * 2 ^ (Nat.log2 den : ℤ) := by
          rw [← zpow_add₀ two_ne_zero]; congr 1; ring
      _ ≤ 2 ^ ((Nat.log2 num : ℤ) - Nat.log2 den + 1) * den :=
          mul_le_mul_of_nonneg_left (low hd) (zpow_pos two_pos _).le

/-- The exponent leaves at most 53 bits in front of the point, and no fewer unless it is the least
one. -/
theorem exponentFor_spec {num den : ℕ} (hn : 0 < num) (hd : 0 < den) :
    -1074 ≤ exponentFor num den ∧ (num : ℚ) / den < 2 ^ (exponentFor num den + 53) ∧
      (exponentFor num den = -1074 ∨ 2 ^ (exponentFor num den + 52) ≤ (num : ℚ) / den) := by
  obtain ⟨hlow, hhigh⟩ := div_between_log2 hn hd
  have hsmall := small_iff num hd ((Nat.log2 num : ℤ) - Nat.log2 den - 52)
  have mono : ∀ {a b : ℤ}, a ≤ b → (2 : ℚ) ^ a ≤ 2 ^ b :=
    fun h => zpow_le_zpow_right₀ one_le_two h
  rw [exponentFor]
  simp only [hsmall]
  split
  · rename_i h
    refine ⟨le_max_right _ _, h.trans_le (mono (by omega)), ?_⟩
    rcases le_total ((Nat.log2 num : ℤ) - Nat.log2 den - 52 - 1) (-1074) with hle | hle
    · exact .inl (max_eq_right hle)
    · rw [max_eq_left hle]
      exact .inr ((mono (by omega)).trans hlow)
  · rename_i h
    refine ⟨le_max_right _ _, hhigh.trans_le (mono (by omega)), ?_⟩
    rcases le_total ((Nat.log2 num : ℤ) - Nat.log2 den - 52) (-1074) with hle | hle
    · exact .inl (max_eq_right hle)
    · rw [max_eq_left hle]
      exact .inr (not_lt.1 h)

/-! ## The rounded number -/

/-- The nearest multiple of the power of two that is chosen for a fraction, by its factor. -/
def mantissaFor (num den : ℕ) : ℕ :=
  roundDiv (num * Nat.pow 2 (-exponentFor num den).toNat)
    (den * Nat.pow 2 (exponentFor num den).toNat)

/-- A fraction other than zero, rounded, however large the exponent gets. -/
def rounded (negative : Bool) (num den : ℕ) : Binary64 :=
  if mantissaFor num den = Nat.pow 2 53 then ⟨negative, Nat.pow 2 52, exponentFor num den + 1⟩
  else ⟨negative, mantissaFor num den, exponentFor num den⟩

theorem ofRatio?_eq (negative : Bool) {num : ℕ} (hn : 0 < num) (den : ℕ) :
    ofRatio? negative num den =
      if 971 < (rounded negative num den).exponent then none
      else some (rounded negative num den) := by
  rw [ofRatio?, if_neg hn.ne']
  rfl

@[simp] theorem size_zero (negative : Bool) : (zero negative).size = 0 := by simp [size, zero]

section Rounded

variable {negative : Bool} {num den : ℕ}

/-- Both ways of writing the rounded number give the multiple of the power of two. -/
theorem size_rounded :
    (rounded negative num den).size = mantissaFor num den * 2 ^ exponentFor num den := by
  rw [rounded]
  split
  · rename_i h
    have hm : ((Nat.pow 2 53 : ℕ) : ℚ) = (Nat.pow 2 52 : ℕ) * 2 := by norm_num
    rw [h, hm, mul_assoc, mul_comm (2 : ℚ), ← zpow_add_one₀ two_ne_zero]
    rfl
  · rfl

theorem exponent_rounded (negative : Bool) (num den : ℕ) :
    (rounded negative num den).exponent = exponentFor num den ∨
      (rounded negative num den).exponent = exponentFor num den + 1 ∧
        (rounded negative num den).mantissa = 2 ^ 52 := by
  rw [rounded]
  split
  · exact .inr ⟨rfl, rfl⟩
  · exact .inl rfl

theorem abs_size_rounded_sub_le (negative : Bool) (num : ℕ) (hd : 0 < den) :
    |(rounded negative num den).size - num / den| ≤ 2 ^ exponentFor num den / 2 := by
  have hpos : (0 : ℚ) < 2 ^ exponentFor num den := zpow_pos two_pos _
  have hden : 0 < den * Nat.pow 2 (exponentFor num den).toNat :=
    Nat.mul_pos hd (Nat.pow_pos two_pos)
  have hm := abs_roundDiv_sub_le (num * Nat.pow 2 (-exponentFor num den).toNat) hden
  rw [div_shifted, ← mantissaFor] at hm
  have hq : (num : ℚ) / den = num / den * 2 ^ (-exponentFor num den) * 2 ^ exponentFor num den := by
    rw [mul_assoc, ← zpow_add₀ two_ne_zero, neg_add_cancel, zpow_zero, mul_one]
  rw [size_rounded, hq, ← sub_mul, abs_mul, abs_of_pos hpos]
  linarith [mul_le_mul_of_nonneg_right hm hpos.le]

/-- Rounding is off by at most one part in `2 ^ 53`, or by half of the least number. -/
theorem abs_size_sub_le {x : Binary64} (hd : 0 < den) (h : ofRatio? negative num den = some x) :
    |x.size - num / den| ≤ num / den / 2 ^ 53 + grain := by
  rcases Nat.eq_zero_or_pos num with rfl | hn
  · obtain rfl := Option.some.inj h
    simpa using grain_pos.le
  · rw [ofRatio?_eq negative hn] at h
    split at h
    · cases h
    obtain rfl := Option.some.inj h
    have hsize := abs_size_rounded_sub_le negative num hd
    obtain ⟨-, -, hleast | hlow⟩ := exponentFor_spec hn hd
    · have hhalf : (2 : ℚ) ^ (-1074 : ℤ) / 2 = grain := by
        rw [show (-1074 : ℤ) = -1075 + 1 from rfl, zpow_add_one₀ two_ne_zero, grain]
        ring
      have hq : (0 : ℚ) ≤ num / den / 2 ^ 53 := by positivity
      rw [hleast, hhalf] at hsize
      linarith
    · have hpos := grain_pos
      have hsum : (2 : ℚ) ^ (exponentFor num den + 52) = 2 ^ 52 * 2 ^ exponentFor num den :=
        two_zpow_add 52 _
      have hhalf : (2 : ℚ) ^ exponentFor num den / 2 ≤ num / den / 2 ^ 53 := by
        rw [hsum] at hlow
        rw [le_div_iff₀ (by positivity)]
        linarith
      linarith

/-- A fraction that is not closer to the limit than to the largest number is not too large. -/
theorem isSome_ofRatio? (hd : 0 < den) (h : (num : ℚ) / den < limit - limit / 2 ^ 54) :
    (ofRatio? negative num den).isSome := by
  rcases Nat.eq_zero_or_pos num with rfl | hn
  · rfl
  obtain ⟨-, -, hlow⟩ := exponentFor_spec hn hd
  have hlimit := limit_pos
  have hsmall : exponentFor num den ≤ 971 := by
    by_contra hlarge
    have hle : limit ≤ 2 ^ (exponentFor num den + 52) :=
      zpow_le_zpow_right₀ one_le_two (by omega)
    have hq := hlow.resolve_left (by omega)
    linarith
  rw [ofRatio?_eq negative hn, if_neg]
  · rfl
  intro hlarge
  rcases exponent_rounded negative num den with he | ⟨he, hm⟩
  · omega
  · -- it is rounded up to the limit, so it is at most half of the last bit below that
    have hlast : exponentFor num den = 971 := by omega
    have hsize := abs_size_rounded_sub_le negative num hd
    have htwo : limit = 2 ^ 53 * 2 ^ (971 : ℤ) := two_zpow_add 53 971
    have hrounded : (rounded negative num den).size = limit := by
      rw [size, hm, he, hlast, zpow_add_one₀ two_ne_zero, htwo, Nat.cast_pow]
      generalize (2 : ℚ) ^ (971 : ℤ) = last
      ring
    have hupper := (abs_le.1 hsize).2
    rw [hlast, hrounded] at hupper
    generalize (2 : ℚ) ^ (971 : ℤ) = last at htwo hupper
    linarith

/-- From the limit on a fraction is too large. -/
theorem ofRatio?_eq_none (hd : 0 < den) (h : limit ≤ num / den) :
    ofRatio? negative num den = none := by
  have hlimit := limit_pos
  have hn : 0 < num := by
    rcases Nat.eq_zero_or_pos num with rfl | hn
    · rw [Nat.cast_zero, zero_div] at h
      linarith
    · exact hn
  obtain ⟨-, hhigh, -⟩ := exponentFor_spec hn hd
  have hlt := (zpow_lt_zpow_iff_right₀ one_lt_two).1 (h.trans_lt hhigh)
  rw [ofRatio?_eq negative hn, if_pos]
  rcases exponent_rounded negative num den with he | ⟨he, -⟩ <;> omega

/-- From one on the error is at most two parts in `2 ^ 53`. -/
theorem abs_size_sub_le_of_one_le {x : Binary64} (hd : 0 < den) (hq : 1 ≤ (num : ℚ) / den)
    (h : ofRatio? negative num den = some x) : |x.size - num / den| ≤ num / den / 2 ^ 52 := by
  have hsize := abs_size_sub_le hd h
  have hleast : grain ≤ 2 ^ (-53 : ℤ) := zpow_le_zpow_right₀ one_le_two (by decide)
  have hunit : (2 : ℚ) ^ (-53 : ℤ) = 1 / 2 ^ 53 := by norm_num
  rw [hunit] at hleast
  linarith

/-- A natural number, rounded. -/
theorem exists_ofRatio?_eq_some (negative : Bool) {n : ℕ} (h : (n : ℚ) < limit - limit / 2 ^ 54) :
    ∃ x, ofRatio? negative n 1 = some x ∧ |x.size - n| ≤ n / 2 ^ 52 := by
  have hq : (n : ℚ) / (1 : ℕ) = n := by rw [Nat.cast_one, div_one]
  have hsome : (ofRatio? negative n 1).isSome := isSome_ofRatio? one_pos (by rwa [hq])
  obtain ⟨x, hx⟩ := Option.isSome_iff_exists.1 hsome
  refine ⟨x, hx, ?_⟩
  rcases Nat.eq_zero_or_pos n with rfl | hpos
  · obtain rfl := Option.some.inj hx
    simp
  · have hone : (1 : ℚ) ≤ n := by exact_mod_cast hpos
    have hsize := abs_size_sub_le_of_one_le one_pos (by rwa [hq]) hx
    rwa [hq] at hsize

end Rounded

/-! ## Steps of arithmetic -/

theorem size_nonneg (x : Binary64) : 0 ≤ x.size := by
  rw [size]
  positivity

theorem shifted_div (n : ℕ) (e : ℤ) : ((shifted n e).1 : ℚ) / (shifted n e).2 = n * 2 ^ e := by
  have h := div_shifted n 1 (-e)
  rw [neg_neg, one_mul, Nat.cast_one, div_one] at h
  exact h

theorem shifted_pos (n : ℕ) (e : ℤ) : 0 < (shifted n e).2 := Nat.pow_pos two_pos

/-- A product is the rounded product of the sizes. -/
theorem exists_mul?_eq (x y : Binary64) :
    ∃ (negative : Bool) (num den : ℕ), 0 < den ∧ (num : ℚ) / den = x.size * y.size ∧
      mul? x y = ofRatio? negative num den := by
  refine ⟨_, (shifted (x.mantissa * y.mantissa) (x.exponent + y.exponent)).1,
    (shifted (x.mantissa * y.mantissa) (x.exponent + y.exponent)).2, shifted_pos _ _, ?_, rfl⟩
  rw [shifted_div, size, size, zpow_add₀ two_ne_zero]
  push_cast
  ring

/-- A quotient is the rounded quotient of the sizes. -/
theorem exists_div?_eq (x : Binary64) {y : Binary64} (hy : 0 < y.size) :
    ∃ (negative : Bool) (num den : ℕ), 0 < den ∧ (num : ℚ) / den = x.size / y.size ∧
      div? x y = ofRatio? negative num den := by
  have hm : 0 < y.mantissa := by
    rcases Nat.eq_zero_or_pos y.mantissa with h | h
    · rw [size, h, Nat.cast_zero, zero_mul] at hy
      exact absurd hy (lt_irrefl 0)
    · exact h
  refine ⟨_, (shifted x.mantissa (x.exponent - y.exponent)).1,
    (shifted x.mantissa (x.exponent - y.exponent)).2 * y.mantissa,
    Nat.mul_pos (shifted_pos _ _) hm, ?_, rfl⟩
  rw [Nat.cast_mul, ← div_div, shifted_div, size, size, zpow_sub₀ two_ne_zero]
  field_simp

section Steps

variable {x y z : Binary64}

theorem isSome_mul? (h : x.size * y.size < limit - limit / 2 ^ 54) : (mul? x y).isSome := by
  obtain ⟨negative, num, den, hd, hq, hmul⟩ := exists_mul?_eq x y
  rw [hmul]
  exact isSome_ofRatio? hd (by rwa [hq])

theorem mul?_eq_none (h : limit ≤ x.size * y.size) : mul? x y = none := by
  obtain ⟨negative, num, den, hd, hq, hmul⟩ := exists_mul?_eq x y
  rw [hmul]
  exact ofRatio?_eq_none hd (by rwa [hq])

theorem isSome_div? (hy : 0 < y.size) (h : x.size / y.size < limit - limit / 2 ^ 54) :
    (div? x y).isSome := by
  obtain ⟨negative, num, den, hd, hq, hdiv⟩ := exists_div?_eq x hy
  rw [hdiv]
  exact isSome_ofRatio? hd (by rwa [hq])

/-- A quotient is not much larger than what it is rounded from. -/
theorem size_le_of_div? (hy : 0 < y.size) (h : div? x y = some z) :
    z.size ≤ 2 * (x.size / y.size) + 1 := by
  obtain ⟨negative, num, den, hd, hq, hdiv⟩ := exists_div?_eq x hy
  have hsize := (abs_le.1 (abs_size_sub_le hd (hdiv ▸ h))).2
  have hgrain : grain ≤ 1 := zpow_le_one_of_nonpos₀ one_le_two (by decide)
  have hpos : 0 ≤ x.size / y.size := div_nonneg x.size_nonneg hy.le
  rw [hq] at hsize
  linarith

end Steps

theorem ten_pow_lt_limit : (10 : ℚ) ^ 308 < limit - limit / 2 ^ 54 := by
  have h : 5 * 10 ^ 308 ≤ 4 * 2 ^ 1024 := by decide +kernel
  have h' : 5 * (10 : ℚ) ^ 308 ≤ 4 * limit := by
    rw [limit]
    exact_mod_cast h
  have hlimit := limit_pos
  generalize (10 : ℚ) ^ 308 = power at *
  linarith

theorem limit_lt_ten_pow : limit < (10 : ℚ) ^ 309 := by
  have h : 2 ^ 1024 < 10 ^ 309 := by decide +kernel
  rw [limit]
  exact_mod_cast h

theorem powerOfTen_spec {n : ℕ} (hn : n ≤ 308) :
    |(powerOfTen n).size - 10 ^ n| ≤ 10 ^ n / 2 ^ 52 := by
  have hle : (10 : ℚ) ^ n ≤ 10 ^ 308 := pow_le_pow_right₀ (by norm_num) hn
  have hcast : ((Nat.pow 10 n : ℕ) : ℚ) = 10 ^ n := by simp
  have hlt : ((Nat.pow 10 n : ℕ) : ℚ) < limit - limit / 2 ^ 54 := by
    rw [hcast]
    exact hle.trans_lt ten_pow_lt_limit
  obtain ⟨x, hx, hsize⟩ := exists_ofRatio?_eq_some false hlt
  rwa [powerOfTen, hx, Option.getD_some, ← hcast]

/-- A power of ten is above a half of what it stands for. -/
theorem half_lt_powerOfTen {n : ℕ} (hn : n ≤ 308) : 10 ^ n / 2 < (powerOfTen n).size := by
  have hpos : (0 : ℚ) < 10 ^ n := by positivity
  have hlow := (abs_le.1 (powerOfTen_spec hn)).1
  linarith

/-! ## Decimals -/

theorem two_pow_le_limit : (2 : ℚ) ^ 68 ≤ limit := by
  rw [limit, ← zpow_natCast]
  exact zpow_le_zpow_right₀ one_le_two (by decide)

/-- Every power of ten is at least a half, so a quotient by it is at most twice the number. -/
theorem div?_powerOfTen_spec {n : ℕ} (hn : n ≤ 308) {x : Binary64} (hx : x.size ≤ 2 ^ 66) :
    0 < (powerOfTen n).size ∧ (div? x (powerOfTen n)).isSome := by
  have hlimit := two_pow_le_limit
  have hhalf := half_lt_powerOfTen hn
  have hone : (1 : ℚ) ≤ 10 ^ n := one_le_pow₀ (by norm_num)
  have hpos : 0 < (powerOfTen n).size := by linarith
  have hle : x.size / (powerOfTen n).size ≤ 2 ^ 67 := by
    rw [div_le_iff₀ hpos]
    linarith
  exact ⟨hpos, isSome_div? hpos (by linarith)⟩

/-- The largest power of ten takes a number of that size down. -/
theorem size_le_of_div?_powerOfTen {x smaller : Binary64} (hx : x.size ≤ 2 ^ 66)
    (h : div? x (powerOfTen 308) = some smaller) : smaller.size ≤ 2 ^ 66 := by
  obtain ⟨hpos, -⟩ := div?_powerOfTen_spec le_rfl hx
  have hsize := size_le_of_div? hpos h
  have hhalf := half_lt_powerOfTen (le_refl 308)
  have hten : (10 : ℚ) ^ 1 ≤ 10 ^ 308 := pow_le_pow_right₀ (by norm_num) (by decide)
  have hle : x.size / (powerOfTen 308).size ≤ 2 ^ 64 := by
    rw [div_le_iff₀ hpos]
    generalize (10 : ℚ) ^ 308 = power at *
    linarith
  linarith

/-- A number that is made smaller does not get too large. -/
theorem isSome_scale?_of_neg (steps : ℕ) {x : Binary64} {e : ℤ} (he : e < 0)
    (hx : x.size ≤ 2 ^ 66) : (scale? steps x e).isSome := by
  induction steps generalizing x e with
  | zero => rfl
  | succ steps ih =>
    rw [scale?]
    split
    · rename_i hsmall
      rw [if_neg (by omega)]
      exact (div?_powerOfTen_spec hsmall hx).2
    · split
      · rfl
      · rw [if_neg (by omega)]
        obtain ⟨-, hsome⟩ := div?_powerOfTen_spec le_rfl hx
        obtain ⟨smaller, hsmaller⟩ := Option.isSome_iff_exists.1 hsome
        rw [hsmaller]
        exact ih (by omega) (size_le_of_div?_powerOfTen hx hsmaller)

theorem size_eq_zero_of_isZero {x : Binary64} (h : x.isZero = true) : x.size = 0 := by
  have hm : x.mantissa = 0 := by simpa [isZero] using h
  rw [size, hm, Nat.cast_zero, zero_mul]

/-- The product of two numbers that are each off by at most two parts in `2 ^ 53`. -/
theorem mul_between {a b p q : ℚ} (hp : 0 ≤ p) (hq : 0 ≤ q) (ha : |a - p| ≤ p / 2 ^ 52)
    (hb : |b - q| ≤ q / 2 ^ 52) :
    p * q - p * q / 2 ^ 51 ≤ a * b ∧ a * b ≤ p * q + p * q / 2 ^ 50 := by
  obtain ⟨halow, hahigh⟩ := abs_le.1 ha
  obtain ⟨hblow, hbhigh⟩ := abs_le.1 hb
  have hpq : 0 ≤ p * q := mul_nonneg hp hq
  have hlow : p * (1 - 1 / 2 ^ 52) * (q * (1 - 1 / 2 ^ 52)) ≤ a * b :=
    mul_le_mul (by linarith) (by linarith) (by positivity) (by linarith)
  have hhigh : a * b ≤ p * (1 + 1 / 2 ^ 52) * (q * (1 + 1 / 2 ^ 52)) :=
    mul_le_mul (by linarith) (by linarith) (by linarith) (by positivity)
  refine ⟨?_, ?_⟩ <;> linarith

section Scaled

variable (negative : Bool) {digits : ℕ} {e : ℤ}

theorem exists_ofRatio?_digits (hdigits : digits < 2 ^ 64) :
    ∃ x, ofRatio? negative digits 1 = some x ∧ |x.size - digits| ≤ digits / 2 ^ 52 := by
  have hlimit := two_pow_le_limit
  have hbits : (digits : ℚ) < 2 ^ 64 := by exact_mod_cast hdigits
  exact exists_ofRatio?_eq_some negative (by linarith)

/-- A decimal of 64 bits that stays a little below the limit is not too large. -/
theorem isSome_ofScaled? (hdigits : digits < 2 ^ 64)
    (h : digits * 10 ^ e ≤ limit - limit / 2 ^ 48) : (ofScaled? negative digits e).isSome := by
  obtain ⟨x, hx, hsize⟩ := exists_ofRatio?_digits negative hdigits
  have hbits : (digits : ℚ) < 2 ^ 64 := by exact_mod_cast hdigits
  have hlimit := limit_pos
  rw [ofScaled?, hx]
  show (scale? 4 x e).isSome
  rcases lt_or_ge e 0 with hneg | hpos
  · exact isSome_scale?_of_neg 4 hneg (by linarith [(abs_le.1 hsize).2])
  obtain ⟨n, rfl⟩ := Int.eq_ofNat_of_zero_le hpos
  rw [zpow_natCast] at h
  rw [scale?, Int.natAbs_natCast, if_pos hpos, if_pos hpos]
  split
  · rename_i hn
    have hmul := mul_between digits.cast_nonneg (by positivity) hsize (powerOfTen_spec hn)
    exact isSome_mul? (by linarith [hmul.2])
  · -- so large a power of ten leaves room for nothing but zero
    rename_i hn
    obtain rfl : digits = 0 := by
      by_contra hne
      have hone : (1 : ℚ) ≤ digits := by exact_mod_cast Nat.one_le_iff_ne_zero.2 hne
      have hten : (10 : ℚ) ^ 309 ≤ 10 ^ n := pow_le_pow_right₀ (by norm_num) (by omega)
      have hle : (10 : ℚ) ^ n ≤ digits * 10 ^ n := le_mul_of_one_le_left (by positivity) hone
      have hlimit309 := limit_lt_ten_pow
      generalize (10 : ℚ) ^ 309 = power at *
      linarith
    obtain rfl := Option.some.inj hx
    rfl

/-- A decimal that reaches a little beyond the limit is too large. -/
theorem ofScaled?_eq_none (hdigits : digits < 2 ^ 64)
    (h : limit + limit / 2 ^ 48 ≤ digits * 10 ^ e) : ofScaled? negative digits e = none := by
  obtain ⟨x, hx, hsize⟩ := exists_ofRatio?_digits negative hdigits
  have hbits : (digits : ℚ) < 2 ^ 64 := by exact_mod_cast hdigits
  have hlimit := two_pow_le_limit
  have hpos : 0 ≤ e := by
    by_contra hneg
    have hle : (10 : ℚ) ^ e ≤ 1 := zpow_le_one_of_nonpos₀ (by norm_num) (by omega)
    have hsmall : (digits : ℚ) * 10 ^ e ≤ digits := mul_le_of_le_one_right digits.cast_nonneg hle
    linarith
  obtain ⟨n, rfl⟩ := Int.eq_ofNat_of_zero_le hpos
  rw [zpow_natCast] at h
  rw [ofScaled?, hx]
  show scale? 4 x n = none
  rw [scale?, Int.natAbs_natCast, if_pos hpos, if_pos hpos]
  split
  · rename_i hn
    have hmul := mul_between digits.cast_nonneg (by positivity) hsize (powerOfTen_spec hn)
    exact mul?_eq_none (by linarith [hmul.1])
  · rw [if_neg]
    intro hzero
    have hlow := (abs_le.1 hsize).1
    rw [size_eq_zero_of_isZero hzero] at hlow
    have hdigits0 : (digits : ℚ) ≤ 0 := by linarith
    have hten : (digits : ℚ) * 10 ^ n ≤ 0 := mul_nonpos_of_nonpos_of_nonneg hdigits0 (by positivity)
    linarith

end Scaled

end Pacts.Binary64
