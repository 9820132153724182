import Mathlib.Algebra.Group.Nat.Defs

/-!
# Words and numbers

Masks and shifts of 32-bit words, read as numbers. A mask of ones is a remainder and a shift to the
right a quotient; a shift to the left is a product as long as nothing leaves the word. Numbers that
share no bits are joined by an "or" as by a sum.
-/

set_option autoImplicit false

namespace ShaderGuard

/-- A number below a power of two has no bit in common with a multiple of that power. -/
theorem or_two_pow_mul (low : Nat) {bits : Nat} (h : low < 2 ^ bits) (high : Nat) :
    low ||| 2 ^ bits * high = low + 2 ^ bits * high := by
  rw [Nat.or_comm, Nat.mul_comm, ← Nat.shiftLeft_eq, ← Nat.shiftLeft_add_eq_or_of_lt h,
    Nat.shiftLeft_eq, Nat.add_comm]

/-- Assumes: a mask of ones. -/
theorem toNat_and_of_mask (word : UInt32) {mask : UInt32} {width : Nat}
    (h : mask.toNat = 2 ^ width - 1) : (word &&& mask).toNat = word.toNat % 2 ^ width := by
  rw [UInt32.toNat_and, h, Nat.and_two_pow_sub_one_eq_mod]

theorem toNat_shiftRight_of_lt (word : UInt32) {bits : UInt32} (h : bits.toNat < 32) :
    (word >>> bits).toNat = word.toNat / 2 ^ bits.toNat := by
  rw [UInt32.toNat_shiftRight, Nat.mod_eq_of_lt h, Nat.shiftRight_eq_div_pow]

/-- Assumes: a word that is shifted within its width. -/
theorem toNat_shiftLeft_of_lt (word : UInt32) {bits : UInt32} (h : bits.toNat < 32)
    (hfits : 2 ^ bits.toNat * word.toNat < 2 ^ 32) :
    (word <<< bits).toNat = 2 ^ bits.toNat * word.toNat := by
  rw [UInt32.toNat_shiftLeft, Nat.mod_eq_of_lt h, Nat.shiftLeft_eq, Nat.mul_comm]
  exact Nat.mod_eq_of_lt hfits

end ShaderGuard
