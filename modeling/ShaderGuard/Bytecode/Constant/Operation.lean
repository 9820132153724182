import ShaderGuard.Bytecode.Constant
import ShaderGuard.Decimal.Binary32.Exact

/-!
Operations on constants.

A module lets its constants be computed by operations on others. `Constant.evaluate?` gives their
results. Arithmetic is on numbers of 32 bits. Integers count with the values that they have in their
own types, so that operands may be signed in different ways, and a result keeps as many bits as its
type has. An operation that is not for the types at hand is refused.
-/

set_option autoImplicit false

namespace ShaderGuard.Bytecode.Constant

open Decimal (Binary32)

/-! ### Integers -/

/-- A quotient or a remainder of integers, which needs a divisor that is not zero. -/
def divided? (operation : Int → Int → Int) (a b : Int) : Option UInt32 :=
  if b = 0 then none else some (UInt32.ofInt (operation a b))

/-- A quotient or a remainder of integers that are taken as unsigned ones of 64 bits, also where
they are negative. -/
def wideDivided? (operation : UInt64 → UInt64 → UInt64) (a b : Int) : Option UInt32 :=
  if b = 0 then none else some (operation (UInt64.ofInt a) (UInt64.ofInt b)).toUInt32

/-- An operation on two integers. A signed quotient is rounded toward zero. A signed remainder has
the sign of the dividend and a signed modulus is never negative; neither makes an unsigned result.
Shifts are of 32 bits, by an amount modulo 32. -/
def integerBinary? (opcode : Opcode) (signed : Bool) (a b : Int) : Option UInt32 :=
  let first := UInt32.ofInt a
  let second := UInt32.ofInt b
  match opcode with
  | .integerAdd => some (first + second)
  | .integerSubtract => some (first - second)
  | .integerMultiply => some (first * second)
  | .unsignedDivide => wideDivided? (fun a b ↦ a / b) a b
  | .unsignedModulo => wideDivided? (fun a b ↦ a % b) a b
  | .signedDivide => divided? Int.tdiv a b
  | .signedRemainder => if signed then divided? Int.tmod a b else none
  | .signedModulo => if signed then divided? Int.emod a b else none
  | .shiftRightLogical => some (first >>> second)
  | .shiftRightArithmetic => some (first.toInt32 >>> second.toInt32).toUInt32
  | .shiftLeft => some (first <<< second)
  | .bitwiseOr => some (first ||| second)
  | .bitwiseXor => some (first ^^^ second)
  | .bitwiseAnd => some (first &&& second)
  | _ => none

/-- A comparison of two integers. -/
def integerTest? (opcode : Opcode) (a b : Int) : Option Bool :=
  match opcode with
  | .integerEqual => some (UInt32.ofInt a == UInt32.ofInt b)
  | .integerNotEqual => some (UInt32.ofInt a != UInt32.ofInt b)
  | _ => none

/-- The negative of a signed integer, which is signed too. -/
def negated? (type : ScalarType) (a : Constant) : Option Constant :=
  if type = .integer 32 true ∧ a.type = type then
    a.integer?.map fun a ↦ ofWord type (UInt32.ofInt a.neg)
  else none

/-! ### Floating-point numbers

They are kept as bits, since there are many for what is no number. -/

/-- Whether bits stand for no number. -/
def isNaN (a : UInt32) : Bool := Binary32.ofBits a == .nan

/-- The bit that makes quiet what is no number. -/
def quietBit : UInt32 := 0x400000

/-- The bits of the result of an operation. If it is no number, it is the first operand that is
none, made quiet; if both operands are numbers, it is the quiet one that has a sign and nothing
else. -/
def floatResult (a b : UInt32) (result : Float32) : UInt32 :=
  if result.isNaN then
    if isNaN a then a ||| quietBit else if isNaN b then b ||| quietBit else 0xff800000 ||| quietBit
  else result.toBits

/-- The remainder of a quotient that is rounded toward zero. -/
def floatRemainder (a b : Float32) : Float32 :=
  Float32.ofBits ((Binary32.ofBits a.toBits).remainder (.ofBits b.toBits)).toBits

/-- The remainder that is never negative, up to rounding. -/
def floatModulus (a b : Float32) : Float32 :=
  let remainder := floatRemainder a b
  if remainder < Float32.ofBits 0 then remainder + b.abs else remainder

/-- An operation on one floating-point number, which may also be none. -/
def floatUnary? (opcode : Opcode) (a : UInt32) : Option UInt32 :=
  match opcode with
  | .floatNegate => some (a ^^^ 0x80000000)
  | .floatConvert => some a
  | _ => none

/-- The operation on two floating-point numbers that an opcode names. -/
def floatOperation? : Opcode → Option (Float32 → Float32 → Float32)
  | .floatAdd => some fun a b ↦ a + b
  | .floatSubtract => some fun a b ↦ a - b
  | .floatMultiply => some fun a b ↦ a * b
  | .floatDivide => some fun a b ↦ a / b
  | .floatRemainder => some floatRemainder
  | .floatModulo => some floatModulus
  | _ => none

/-- An operation on two floating-point numbers. -/
def floatBinary? (opcode : Opcode) (a b : UInt32) : Option UInt32 :=
  (floatOperation? opcode).map fun operation ↦
    floatResult a b (operation (Float32.ofBits a) (Float32.ofBits b))

/-! ### Other types -/

/-- The integer of 32 bits that is nearest to the whole part of a floating-point number. -/
def wholePart (signed : Bool) (a : UInt32) : UInt32 :=
  let number := Binary32.ofBits a
  UInt32.ofInt
    (if signed then number.clampedWhole (-0x80000000) 0x7fffffff
      else number.clampedWhole 0 0xffffffff)

/-- An integer in another width, if both types are signed as they are asked to be. A signed integer
keeps its sign. -/
def resized? (signed : Bool) (type : ScalarType) (a : Constant) : Option Constant :=
  match a.type, type with
  | .integer width oldSigned, .integer newWidth newSigned =>
    if oldSigned == signed && newSigned == signed && type.wordCount?.isSome then
      let old := a.value width
      some ⟨type, (if signed then old.signExtend newWidth else old.setWidth newWidth).toNat⟩
    else none
  | _, _ => none

/-- The whole part of a floating-point number as an integer that is signed as it is asked to be. -/
def truncated? (signed : Bool) (type : ScalarType) (a : Constant) : Option Constant :=
  if type = .integer 32 signed then a.float?.map fun a ↦ ofWord type (wholePart signed a) else none

/-- The floating-point number that is nearest to an integer that is signed as it is asked to be. -/
def floated? (signed : Bool) (type : ScalarType) (a : Constant) : Option Constant :=
  if type = .float 32 ∧ a.type = .integer 32 signed then
    a.integer?.map fun a ↦ ofWord type (Float32.ofInt a).toBits
  else none

/-- The same 32 bits as a number of another type. -/
def recast? (type : ScalarType) (a : Constant) : Option Constant :=
  if type.isWord && a.type.isWord then some ⟨type, a.bits⟩ else none

/-! ### All operations -/

/-- The result of an operation on one constant. -/
def unary? (opcode : Opcode) (type : ScalarType) (a : Constant) : Option Constant :=
  match opcode, type with
  | .bitcast, _ => a.recast? type
  | .unsignedConvert, _ => a.resized? false type
  | .signedConvert, _ => a.resized? true type
  | .floatToUnsigned, _ => a.truncated? false type
  | .floatToSigned, _ => a.truncated? true type
  | .unsignedToFloat, _ => a.floated? false type
  | .signedToFloat, _ => a.floated? true type
  | .signedNegate, _ => a.negated? type
  | .complement, .integer 32 _ => a.integer?.map fun a ↦ ofWord type (~~~(UInt32.ofInt a))
  | _, .float 32 => a.float?.bind fun a ↦ (floatUnary? opcode a).map (ofWord type)
  | _, _ => none

/-- The result of an operation on two constants. -/
def binary? (opcode : Opcode) (type : ScalarType) (a b : Constant) : Option Constant :=
  match type with
  | .integer 32 signed =>
    a.integer?.bind fun a ↦ b.integer?.bind fun b ↦
      (integerBinary? opcode signed a b).map (ofWord type)
  | .boolean =>
    a.integer?.bind fun a ↦ b.integer?.bind fun b ↦ (integerTest? opcode a b).map truth
  | .float 32 =>
    a.float?.bind fun a ↦ b.float?.bind fun b ↦ (floatBinary? opcode a b).map (ofWord type)
  | _ => none

/-- The result of an operation that is to be of a type, if the operation is for that type and for
the operands. -/
def evaluate? (opcode : Opcode) (type : ScalarType) : List Constant → Option Constant
  | [a] => unary? opcode type a
  | [a, b] => binary? opcode type a b
  | _ => none

end ShaderGuard.Bytecode.Constant
