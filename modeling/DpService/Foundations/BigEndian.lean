import Mathlib.Data.Nat.ModEq
import Mathlib.Data.UInt
import Mathlib.Tactic.Ring

/-!
# Numbers in network byte order

`beBytes width number` writes the low `8 * width` bits of a number with its
most significant byte first, and `beNat` reads such bytes back.
-/

namespace DpService.Foundations

def beBytes : Nat → Nat → List UInt8
  | 0, _ => []
  | width + 1, number => beBytes width (number / 256) ++ [number.toUInt8]

def beNat (bytes : List UInt8) : Nat :=
  bytes.foldl (fun number byte => number * 256 + byte.toNat) 0

@[simp]
theorem length_beBytes (width number : Nat) : (beBytes width number).length = width := by
  induction width generalizing number with
  | zero => rfl
  | succ width ih =>
    simp [beBytes, ih]

theorem beNat_append_singleton (bytes : List UInt8) (byte : UInt8) :
    beNat (bytes ++ [byte]) = beNat bytes * 256 + byte.toNat := by
  simp [beNat]

theorem beNat_append (front back : List UInt8) :
    beNat (front ++ back) = beNat front * 256 ^ back.length + beNat back := by
  induction back using List.reverseRecOn with
  | nil => simp [beNat]
  | append_singleton back byte ih =>
    rw [← List.append_assoc, beNat_append_singleton, beNat_append_singleton,
      ih, List.length_append, List.length_singleton, pow_succ]
    ring

theorem beBytes_add (high low number : Nat) : beBytes (high + low) number =
      beBytes high (number / 256 ^ low) ++ beBytes low number := by
  induction low generalizing number with
  | zero => simp [beBytes]
  | succ low ih =>
    have quotient : number / 256 / 256 ^ low = number / 256 ^ (low + 1) := by
      rw [Nat.div_div_eq_div_mul, pow_succ, Nat.mul_comm]
    rw [← Nat.add_assoc, beBytes, ih, beBytes, quotient, List.append_assoc]

theorem beNat_beBytes (width number : Nat) :
    beNat (beBytes width number) = number % 256 ^ width := by
  induction width generalizing number with
  | zero =>
    have single : number % 1 = 0 := Nat.mod_one number
    simp [beBytes, beNat, single]
  | succ width ih =>
    have lastByte : number.toUInt8.toNat = number % 256 := by
      simp
    rw [beBytes, beNat_append_singleton, ih, lastByte,
      pow_succ, Nat.mul_comm (256 ^ width) 256, Nat.mod_mul]
    ring

theorem beNat_beBytes_of_lt {width number : Nat} (fits : number < 256 ^ width) :
    beNat (beBytes width number) = number := by
  rw [beNat_beBytes, Nat.mod_eq_of_lt fits]

theorem beNat_lt (bytes : List UInt8) : beNat bytes < 256 ^ bytes.length := by
  induction bytes using List.reverseRecOn with
  | nil => exact Nat.one_pos
  | append_singleton front byte ih =>
    have byteBound : byte.toNat < 256 := byte.toNat_lt
    rw [beNat_append_singleton, List.length_append, List.length_singleton, pow_succ]
    omega

theorem beBytes_beNat (bytes : List UInt8) : beBytes bytes.length (beNat bytes) = bytes := by
  induction bytes using List.reverseRecOn with
  | nil => rfl
  | append_singleton front byte ih =>
    have byteBound : byte.toNat < 256 := byte.toNat_lt
    have frontPart : (beNat front * 256 + byte.toNat) / 256 = beNat front := by
      omega
    have lastPart : (beNat front * 256 + byte.toNat).toUInt8 = byte := by
      apply UInt8.toNat_inj.mp
      simp only [UInt8.toNat_ofNat', Nat.toUInt8]
      omega
    rw [List.length_append, List.length_singleton, beNat_append_singleton,
      beBytes, frontPart, lastPart, ih]

def swapBytes (word : UInt16) : UInt16 :=
  UInt16.ofNat (word.toNat % 256 * 256 + word.toNat / 256)

theorem toNat_swapBytes (word : UInt16) :
    (swapBytes word).toNat = word.toNat % 256 * 256 + word.toNat / 256 := by
  have bound : word.toNat < 65536 := word.toNat_lt
  rw [swapBytes, UInt16.toNat_ofNat']
  exact Nat.mod_eq_of_lt (by omega)

@[simp]
theorem swapBytes_swapBytes (word : UInt16) : swapBytes (swapBytes word) = word := by
  have bound : word.toNat < 65536 := word.toNat_lt
  apply UInt16.toNat_inj.mp
  rw [toNat_swapBytes, toNat_swapBytes]
  omega

theorem swapBytes_injective : Function.Injective swapBytes :=
  Function.LeftInverse.injective swapBytes_swapBytes

@[simp]
theorem swapBytes_eq_zero_iff {word : UInt16} : swapBytes word = 0 ↔ word = 0 := by
  have zero : swapBytes 0 = 0 := by decide
  constructor
  · intro swapped
    exact swapBytes_injective (swapped.trans zero.symm)
  · rintro rfl
    exact zero

end DpService.Foundations
