import Mathlib.Algebra.Order.Ring.Nat
import SeriesReplica.Numeric.Shortest

/-! Rounding loses nothing where there is nothing to lose. A ratio that is exactly a binary
fraction of 53 bits is rounded to that number, and the decimal expansion of a number, which is such
a ratio, is read as the number. -/
namespace SeriesReplica.Numeric
open Text

namespace Float64
variable {x : Float64}

section Bits

theorem signBit_eq : signBit = 2 ^ 63 := rfl

theorem infinityBits_eq : infinityBits = 2047 * 2 ^ 52 := rfl

theorem magnitudeBits_withSign (negative : Bool) {bits : Nat} (h : bits ≤ infinityBits) :
    (withSign negative bits).magnitudeBits = bits := by
  rw [infinityBits_eq] at h
  simp only [magnitudeBits, withSign, signBit_eq, UInt64.toNat_ofNat']
  cases negative <;> simp <;> omega

/-- A number is its magnitude with its sign. -/
theorem withSign_magnitudeBits (x : Float64) : withSign x.isNegative x.magnitudeBits = x := by
  obtain ⟨bits⟩ := x
  have hbits : bits.toNat < 2 ^ 64 := bits.toNat_lt
  have hback : (if signBit ≤ bits.toNat then signBit + bits.toNat % signBit
      else bits.toNat % signBit) = bits.toNat := by
    rw [signBit_eq]
    split <;> omega
  simp only [withSign, isNegative, magnitudeBits, decide_eq_true_eq]
  rw [hback, UInt64.ofNat_toNat]

/-- The bits of a finite number are its scale and its mantissa, one after the other. -/
theorem scale_mantissa (x : Float64) : x.scale * 2 ^ 52 + x.mantissa = x.magnitudeBits := by
  simp only [scale, mantissa, Nat.pow_eq]
  split <;> omega

theorem mantissa_lt (x : Float64) : x.mantissa < 2 ^ 53 := by
  simp only [mantissa, Nat.pow_eq]
  split <;> omega

/-- A mantissa is short of its leading bit on the least scale only. -/
theorem mantissa_normal (x : Float64) : 2 ^ 52 ≤ x.mantissa ∨ x.scale = 0 := by
  simp only [mantissa, scale, Nat.pow_eq]
  split <;> omega

theorem scale_le (h : x.isFinite = true) : x.scale ≤ 2045 := by
  simp only [isFinite, decide_eq_true_eq, infinityBits_eq] at h
  simp only [scale, Nat.pow_eq]
  omega

theorem mantissa_pos (h : x.isZero = false) : 0 < x.mantissa := by
  simp only [isZero, decide_eq_false_iff_not] at h
  simp only [mantissa, Nat.pow_eq]
  split <;> omega

end Bits

section Rounding
variable {num den m s k : Nat}

theorem roundDiv_mul (hden : 0 < den) (m : Nat) : roundDiv (den * m) den = m := by
  simp only [roundDiv, Nat.mul_mod_right, Nat.mul_div_cancel_left m hden]
  rw [if_neg (by omega)]

/-- Whether a power of two is reached, without negative exponents. -/
theorem reaches_iff {e : Int} {j : Nat} (he : e = (j : Int) - k) :
    reaches num den e = true ↔ den * 2 ^ j ≤ num * 2 ^ k := by
  rw [reaches]
  split
  case isTrue hpos =>
    have hj : 2 ^ j = 2 ^ e.toNat * 2 ^ k := by
      rw [← Nat.pow_add]
      congr 1
      omega
    rw [decide_eq_true_eq, hj, ← Nat.mul_assoc]
    exact (Nat.mul_le_mul_right_iff (Nat.two_pow_pos k)).symm
  case isFalse hneg =>
    have hk : 2 ^ k = 2 ^ (-e).toNat * 2 ^ j := by
      rw [← Nat.pow_add]
      congr 1
      omega
    rw [decide_eq_true_eq, hk, ← Nat.mul_assoc]
    exact (Nat.mul_le_mul_right_iff (Nat.two_pow_pos j)).symm

/-- The largest power of two within a ratio that equals a mantissa on a scale is that of the
mantissa. -/
theorem top_eq (hden : 0 < den) (hm : 0 < m) (h : num * 2 ^ k = den * (m * 2 ^ s)) :
    (if reaches num den ((Nat.log2 num : Int) - Nat.log2 den)
      then (Nat.log2 num : Int) - Nat.log2 den
      else (Nat.log2 num : Int) - Nat.log2 den - 1) = (Nat.log2 m + s : Nat) - (k : Int) := by
  have hnum : num ≠ 0 := by
    rintro rfl
    have := Nat.mul_pos hden (Nat.mul_pos hm (Nat.two_pow_pos s))
    omega
  have hlow : den * 2 ^ (Nat.log2 m + s) ≤ num * 2 ^ k := by
    rw [h, Nat.pow_add]
    exact Nat.mul_le_mul_left den (Nat.mul_le_mul_right _ (Nat.log2_self_le hm.ne'))
  have hhigh : num * 2 ^ k < den * 2 ^ (Nat.log2 m + s + 1) := by
    rw [h, Nat.add_right_comm, Nat.pow_add]
    exact Nat.mul_lt_mul_of_pos_left (Nat.mul_lt_mul_of_pos_right Nat.lt_log2_self
      (Nat.two_pow_pos s)) hden
  -- The logarithm of the quotient is one less than that of the mantissa at most.
  have hbelow : Nat.log2 den + (Nat.log2 m + s) < Nat.log2 num + 1 + k := by
    refine (Nat.pow_lt_pow_iff_right (by decide : 1 < 2)).1 ?_
    calc 2 ^ (Nat.log2 den + (Nat.log2 m + s))
        = 2 ^ Nat.log2 den * 2 ^ (Nat.log2 m + s) := Nat.pow_add ..
      _ ≤ den * 2 ^ (Nat.log2 m + s) :=
        Nat.mul_le_mul_right _ (Nat.log2_self_le hden.ne')
      _ ≤ num * 2 ^ k := hlow
      _ < 2 ^ (Nat.log2 num + 1) * 2 ^ k :=
        Nat.mul_lt_mul_of_pos_right Nat.lt_log2_self (Nat.two_pow_pos k)
      _ = 2 ^ (Nat.log2 num + 1 + k) := (Nat.pow_add ..).symm
  have habove : Nat.log2 num + k < Nat.log2 den + 1 + (Nat.log2 m + s + 1) := by
    refine (Nat.pow_lt_pow_iff_right (by decide : 1 < 2)).1 ?_
    calc 2 ^ (Nat.log2 num + k)
        = 2 ^ Nat.log2 num * 2 ^ k := Nat.pow_add ..
      _ ≤ num * 2 ^ k := Nat.mul_le_mul_right _ (Nat.log2_self_le hnum)
      _ < den * 2 ^ (Nat.log2 m + s + 1) := hhigh
      _ ≤ 2 ^ (Nat.log2 den + 1) * 2 ^ (Nat.log2 m + s + 1) :=
        Nat.mul_le_mul_right _ Nat.lt_log2_self.le
      _ = 2 ^ (Nat.log2 den + 1 + (Nat.log2 m + s + 1)) := (Nat.pow_add ..).symm
  rcases (by omega : (Nat.log2 num : Int) - Nat.log2 den = (Nat.log2 m + s : Nat) - (k : Int) ∨
    (Nat.log2 num : Int) - Nat.log2 den = (Nat.log2 m + s + 1 : Nat) - (k : Int)) with hat | hover
  · rw [if_pos ((reaches_iff hat).2 hlow), hat]
  · rw [if_neg fun hreaches => Nat.not_le_of_lt hhigh ((reaches_iff hover).1 hreaches), hover]
    omega

/-- On a scale above the unit the ratio is a multiple of the power of two that is left. -/
theorem eq_mul_of_le (hk : k ≤ s) (h : num * 2 ^ k = den * (m * 2 ^ s)) :
    num = den * 2 ^ (s - k) * m := by
  refine Nat.eq_of_mul_eq_mul_right (Nat.two_pow_pos k) ?_
  rw [h, Nat.mul_assoc, Nat.mul_assoc, Nat.mul_left_comm (2 ^ (s - k)), ← Nat.pow_add,
    Nat.sub_add_cancel hk]

/-- On a scale below the unit the ratio becomes a whole number by the power of two that is
missing. -/
theorem mul_eq_of_le (hs : s ≤ k) (h : num * 2 ^ k = den * (m * 2 ^ s)) :
    num * 2 ^ (k - s) = den * m := by
  refine Nat.eq_of_mul_eq_mul_right (Nat.two_pow_pos s) ?_
  rw [Nat.mul_assoc, ← Nat.pow_add, Nat.sub_add_cancel hs, h, Nat.mul_assoc]

/-- A ratio that equals a mantissa of 53 bits on a scale is rounded to it. -/
theorem ofRatio_exact (negative : Bool) (hden : 0 < den) (hm : 0 < m) (hlt : m < 2 ^ 53)
    (hnormal : 2 ^ 52 ≤ m ∨ s = 0) (hs : s ≤ 2045) (h : num * 2 ^ 1074 = den * (m * 2 ^ s)) :
    ofRatio negative num den = withSign negative (s * 2 ^ 52 + m) := by
  have hnum : num ≠ 0 := by
    rintro rfl
    have := Nat.mul_pos hden (Nat.mul_pos hm (Nat.two_pow_pos s))
    omega
  have hlog : Nat.log2 m < 53 := (Nat.log2_lt hm.ne').2 hlt
  have hscale : ((Nat.log2 m + s : Nat) - (1074 : Nat) + 1022 : Int).toNat = s := by
    rcases hnormal with hleading | rfl
    · have := (Nat.le_log2 hm.ne').2 hleading
      omega
    · omega
  have hrounded : (if 1074 ≤ s then roundDiv num (den * Nat.pow 2 (s - 1074))
      else roundDiv (num * Nat.pow 2 (1074 - s)) den) = m := by
    simp only [Nat.pow_eq]
    split
    case isTrue hbig =>
      rw [eq_mul_of_le hbig h]
      exact roundDiv_mul (Nat.mul_pos hden (Nat.two_pow_pos _)) m
    case isFalse hsmall =>
      rw [mul_eq_of_le (by omega) h]
      exact roundDiv_mul hden m
  rw [ofRatio, if_neg hnum]
  simp only [top_eq hden hm h, hscale, hrounded]
  rw [Nat.min_eq_right (by rw [infinityBits_eq]; simp only [Nat.pow_eq]; omega), Nat.pow_eq]

end Rounding

end Float64
end SeriesReplica.Numeric
