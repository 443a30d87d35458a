import Mathlib.Data.Nat.Bitwise

/-!
# Masks of leading bits

A mask of a width with its leading bits set compares numbers by the quotient
of a power of two.  Numbers made of two halves are masked half by half.
-/

namespace DpService.Foundations

theorem land_leadingMask {width low number : Nat} (bounded : number < 2 ^ width)
    (low_le : low ≤ width) :
    number &&& (2 ^ width - 2 ^ low) = number / 2 ^ low * 2 ^ low := by
  have positive : 0 < 2 ^ low := Nat.two_pow_pos low
  have smaller : 2 ^ low - 1 < 2 ^ width := by
    have monotone : 2 ^ low ≤ 2 ^ width := Nat.pow_le_pow_right (by decide) low_le
    omega
  have mask : 2 ^ width - 2 ^ low = 2 ^ width - (2 ^ low - 1 + 1) := by
    omega
  apply Nat.eq_of_testBit_eq
  intro bit
  rw [Nat.testBit_land, mask, Nat.testBit_two_pow_sub_succ smaller,
    Nat.testBit_two_pow_sub_one, Nat.testBit_mul_two_pow, Nat.testBit_div_two_pow]
  by_cases high : low ≤ bit
  · have below : ¬bit < low := Nat.not_lt.mpr high
    by_cases inside : bit < width
    · simp [high, below, inside]
    have clear : number.testBit bit = false :=
      Nat.testBit_lt_two_pow
        (lt_of_lt_of_le bounded (Nat.pow_le_pow_right (by decide) (Nat.not_lt.mp inside)))
    simp [high, below, inside, clear]
  · simp [high, Nat.lt_of_not_le high]

theorem land_leadingMask_eq_iff {width low first second : Nat} (firstBounded : first < 2 ^ width)
    (secondBounded : second < 2 ^ width) (low_le : low ≤ width) :
    first &&& (2 ^ width - 2 ^ low) = second &&& (2 ^ width - 2 ^ low) ↔
      first / 2 ^ low = second / 2 ^ low := by
  rw [land_leadingMask firstBounded low_le, land_leadingMask secondBounded low_le]
  exact Nat.mul_left_inj (Nat.two_pow_pos low).ne'

theorem land_halves {half low mask : Nat} (high maskHigh : Nat) (lowBounded : low < 2 ^ half)
    (maskBounded : mask < 2 ^ half) :
    (2 ^ half * high + low) &&& (2 ^ half * maskHigh + mask) =
      2 ^ half * (high &&& maskHigh) + (low &&& mask) := by
  have lowLand : low &&& mask < 2 ^ half := lt_of_le_of_lt Nat.and_le_left lowBounded
  apply Nat.eq_of_testBit_eq
  intro bit
  rw [Nat.testBit_land, Nat.testBit_two_pow_mul_add _ lowBounded,
    Nat.testBit_two_pow_mul_add _ maskBounded, Nat.testBit_two_pow_mul_add _ lowLand]
  split <;> simp

theorem halves_eq_iff {half low low' high high' : Nat} (bounded : low < 2 ^ half)
    (bounded' : low' < 2 ^ half) :
    2 ^ half * high + low = 2 ^ half * high' + low' ↔ high = high' ∧ low = low' := by
  constructor
  · intro equal
    have quotient := congrArg (· / 2 ^ half) equal
    have remainder := congrArg (· % 2 ^ half) equal
    simp only [Nat.mul_add_mod, Nat.mod_eq_of_lt bounded, Nat.mod_eq_of_lt bounded'] at remainder
    simp only [Nat.mul_add_div (Nat.two_pow_pos half),
      Nat.div_eq_of_lt bounded, Nat.div_eq_of_lt bounded', Nat.add_zero] at quotient
    exact ⟨quotient, remainder⟩
  · rintro ⟨rfl, rfl⟩
    rfl

end DpService.Foundations
