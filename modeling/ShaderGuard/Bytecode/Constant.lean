import ShaderGuard.Bytecode.Opcode

/-!
Constants of a module.

A constant is a single value: a truth value, an integer or a floating-point number. Its bits are
kept as a natural number, of which as many count as its type is wide. What can be computed from
constants stands in the module on their operations.
-/

set_option autoImplicit false

namespace ShaderGuard.Bytecode

/-- A type of single values. -/
inductive ScalarType where
  /-- The type without values. -/
  | void
  | boolean
  | integer (width : Nat) (signed : Bool)
  | float (width : Nat)
  deriving DecidableEq

namespace ScalarType

/-- The number of words that a module writes a number in, if its type has a width in use. -/
def wordCount? : ScalarType → Option Nat
  | .void | .boolean => none
  | .integer width _ =>
    if width = 8 ∨ width = 16 ∨ width = 32 then some 1 else if width = 64 then some 2 else none
  | .float width => if width = 16 ∨ width = 32 then some 1 else if width = 64 then some 2 else none

/-- Whether the values of a type are numbers of 32 bits. -/
def isWord : ScalarType → Bool
  | .integer width _ | .float width => width = 32
  | .void | .boolean => false

end ScalarType

/-- A constant: its type and its bits. -/
structure Constant where
  type : ScalarType
  bits : Nat
  deriving DecidableEq

namespace Constant

/-- A truth value. -/
def truth (value : Bool) : Constant := ⟨.boolean, value.toNat⟩

/-- The number that words hold, the lowest word first. -/
def wordsValue : List UInt32 → Nat
  | [] => 0
  | word :: rest => word.toNat + 0x100000000 * wordsValue rest

/-- The constant that words hold: a truth value in any number of them, and a number in as many as
its type asks for. -/
def ofWords? (type : ScalarType) (words : List UInt32) : Option Constant :=
  if type = .boolean then some (.truth (words.any fun word ↦ word != 0))
  else if type.wordCount? = some words.length then some ⟨type, wordsValue words⟩
  else none

/-- A constant of 32 bits. -/
def ofWord (type : ScalarType) (word : UInt32) : Constant := ⟨type, word.toNat⟩

/-- The bits of a floating-point number of 32 bits. -/
def float? (constant : Constant) : Option UInt32 :=
  match constant.type with
  | .float 32 => some (UInt32.ofNat constant.bits)
  | _ => none

/-- The bits of a constant in a width. -/
def value (constant : Constant) (width : Nat) : BitVec width := BitVec.ofNat width constant.bits

/-- The integer that a constant stands for, if it is one of 32 bits. -/
def integer? (constant : Constant) : Option Int :=
  match constant.type with
  | .integer 32 true => some (UInt32.ofNat constant.bits).toInt32.toInt
  | .integer 32 false => some (Int.ofNat (UInt32.ofNat constant.bits).toNat)
  | _ => none

/-- Whether a constant can be the length of an array: a positive integer of 32 bits. -/
def isLength (constant : Constant) : Bool := constant.integer?.any fun length ↦ 0 < length

end Constant

end ShaderGuard.Bytecode
