import ShaderGuard.Decimal.Binary32

/-!
Operations on binary numbers whose results need no rounding.

The remainder of a quotient that is rounded toward zero has no more significant bits than its
operands, so `Binary32.remainder` is exact; so is the whole part of a number, which
`Binary32.clampedWhole` brings into a range. `value_normalized` says that the normal form of a
number keeps its value, and `clampedWhole_mem` that a whole part is in the range asked for.
-/

set_option autoImplicit false

namespace ShaderGuard.Decimal

namespace Binary32

/-- The same number, `mantissa · 2^(exponent - 149)`, with the leading bit set unless the exponent
is the least. -/
def normalized (mantissa : Nat) : Nat → Nat × Nat
  | 0 => (mantissa, 0)
  | exponent + 1 =>
    if mantissa < leadingBit then normalized (2 * mantissa) exponent else (mantissa, exponent + 1)

/-- The bit of a sign, which is the highest of a word. -/
def signBit (negative : Bool) : UInt32 := if negative then 0x80000000 else 0

/-- The word that stands for a number. A leading bit in front of the 23 that are written down
counts into the exponent, which is one more than kept here if there is such a bit. -/
def toBits : Binary32 → UInt32
  | .nan => 0x7fc00000
  | .infinite negative => signBit negative ||| 0x7f800000
  | .finite negative mantissa exponent =>
    let parts := normalized mantissa exponent
    signBit negative ||| UInt32.ofNat (parts.1 + leadingBit * parts.2)

/-- The remainder of a quotient that is rounded toward zero. It has the sign of the dividend. -/
def remainder : Binary32 → Binary32 → Binary32
  | .finite negative mantissa exponent, .finite _ divisor scale =>
    let least := if exponent < scale then exponent else scale
    if divisor = 0 then .nan
    else
      .finite negative ((mantissa <<< (exponent - least)) % (divisor <<< (scale - least))) least
  | .finite negative mantissa exponent, .infinite _ => .finite negative mantissa exponent
  | _, _ => .nan

/-- The nearest number in a range of whole numbers. -/
def clamped (low high number : Int) : Int :=
  if number < low then low else if high < number then high else number

/-- The whole part of a number, brought into a range. What is no number counts as zero. -/
def clampedWhole (low high : Int) : Binary32 → Int
  | .nan => clamped low high 0
  | .infinite negative => if negative then low else high
  | .finite negative mantissa exponent =>
    let whole : Int := Int.ofNat ((mantissa <<< exponent) >>> 149)
    clamped low high (if negative then whole.neg else whole)

/-- The normal form of a number keeps its value. -/
theorem value_normalized (mantissa exponent : Nat) :
    (normalized mantissa exponent).1 <<< (normalized mantissa exponent).2 =
      mantissa <<< exponent := by
  induction exponent generalizing mantissa with
  | zero => rfl
  | succ exponent ih =>
    simp only [normalized]
    split
    · rw [ih, Nat.shiftLeft_succ_inside]
    · rfl

/-- What is brought into a range is in it. -/
theorem clamped_mem {low high : Int} (h : low ≤ high) (number : Int) :
    low ≤ clamped low high number ∧ clamped low high number ≤ high := by
  unfold clamped
  split
  · omega
  · split <;> omega

/-- A whole part is in the range asked for. -/
theorem clampedWhole_mem {low high : Int} (h : low ≤ high) (number : Binary32) :
    low ≤ number.clampedWhole low high ∧ number.clampedWhole low high ≤ high := by
  cases number with
  | nan => exact clamped_mem h 0
  | infinite negative =>
    simp only [clampedWhole]
    split <;> omega
  | finite negative mantissa exponent => exact clamped_mem h _

end Binary32

end ShaderGuard.Decimal
