/-!
The decimal text of a binary number with 24 significant bits.

A finite number is `m · 2^q` with whole `m`. All reals between the middles to its two neighbours
round to it, the middles themselves if `m` is even. Its text is the decimal with the fewest digits
among them, and of those the nearest; of two that are equally near it is the greater. It is written
in positional notation without an exponent.
-/

set_option autoImplicit false

namespace ShaderGuard.Decimal

/-- The value of a word of 32 bits, read as a binary floating point number. -/
inductive Binary32 where
  | nan
  | infinite (negative : Bool)
  /-- The number `mantissa · 2^(exponent - 149)`. -/
  | finite (negative : Bool) (mantissa exponent : Nat)
  deriving DecidableEq

/-- The bit in front of the 23 that are written down. -/
def leadingBit : Nat := 0x800000

/-- The number that a word of 32 bits stands for: a sign bit, eight bits of exponent and 23 bits
behind the leading one, which the least exponent lacks. -/
def Binary32.ofBits (bits : UInt32) : Binary32 :=
  let negative := bits >>> 31 == 1
  let exponent := ((bits >>> 23) &&& 0xff).toNat
  let fraction := (bits &&& 0x7fffff).toNat
  if exponent = 255 then
    if fraction = 0 then .infinite negative else .nan
  else if exponent = 0 then .finite negative fraction 0
  else .finite negative (fraction + leadingBit) (exponent - 1)

/-- A set of positive rationals between two bounds, given as whole numbers over one denominator. -/
structure Interval where
  low : Nat
  value : Nat
  high : Nat
  denominator : Nat
  /-- Whether the bounds belong to the set. -/
  closed : Bool

/-- The reals that round to `mantissa · 2^(exponent - 149)`, in quarters of its last bit. Below a
power of two the neighbour is half as far. -/
def roundingInterval (mantissa exponent : Nat) : Interval :=
  let scale := 1 <<< exponent
  let below := if mantissa = leadingBit ∧ 0 < exponent then 1 else 2
  { low := (4 * mantissa - below) * scale
    value := 4 * mantissa * scale
    high := (4 * mantissa + 2) * scale
    denominator := 1 <<< 151
    closed := mantissa % 2 = 0 }

/-- Whether the rational `n / d` belongs to an interval. -/
def Interval.has (interval : Interval) (n d : Nat) : Bool :=
  let low := interval.low * d
  let high := interval.high * d
  let point := n * interval.denominator
  (low < point && point < high) || (interval.closed && (low == point || point == high))

/-- A decimal number: `coefficient · 10^exponent`. -/
structure Numeral where
  coefficient : Nat
  exponent : Int
  deriving DecidableEq

/-- The decimal at a given exponent that belongs to an interval and is nearest to its value. Only
the two neighbours of the value can be it. -/
def Interval.onGrid? (interval : Interval) (exponent : Int) : Option Numeral :=
  let up := Nat.pow 10 exponent.toNat
  let down := Nat.pow 10 (-exponent).toNat
  let scaled := interval.value * down
  let unit := interval.denominator * up
  let floor := scaled / unit
  let below := interval.has (floor * up) down
  let above := interval.has ((floor + 1) * up) down
  if above && (!below || unit ≤ 2 * (scaled % unit)) then some ⟨floor + 1, exponent⟩
  else if below then some ⟨floor, exponent⟩
  else none

/-- The shortest decimal in an interval: the one on the coarsest grid that has any. No number with
24 significant bits needs a coarser grid than `10^39` or a finer one than `10^-60`. -/
def Interval.shortest (interval : Interval) : Numeral :=
  ((List.range 100).findSome? fun (step : Nat) ↦ interval.onGrid? (39 - step)).getD ⟨0, 0⟩

/-- The positional text of a decimal. -/
def Numeral.positional (numeral : Numeral) : String :=
  let digits := Nat.toDigits 10 numeral.coefficient
  let zeros (count : Nat) := List.replicate count '0'
  match numeral.exponent with
  | .ofNat places => String.ofList (digits ++ zeros places)
  | .negSucc less =>
    let places := less + 1
    if places < digits.length then
      String.ofList (digits.take (digits.length - places) ++ '.' ::
        digits.drop (digits.length - places))
    else String.ofList ('0' :: '.' :: zeros (places - digits.length) ++ digits)

/-- The text of a number. A number that is none has no sign. -/
def Binary32.text : Binary32 → String
  | .nan => "NaN"
  | .infinite negative => if negative then "-inf" else "inf"
  | .finite negative mantissa exponent =>
    let sign := if negative then "-" else ""
    if mantissa = 0 then sign ++ "0"
    else sign ++ (roundingInterval mantissa exponent).shortest.positional

end ShaderGuard.Decimal
