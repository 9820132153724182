/-!
The opcodes of instructions that matter here, by name.

An opcode is a number below 2 ^ 16, and most have no meaning to this library; so an opcode is kept
as a number, and those that are looked for have names that can stand in patterns.
-/

set_option autoImplicit false

namespace ShaderGuard.Bytecode

/-- The number that says what an instruction does. -/
abbrev Opcode := Nat

namespace Opcode

/-! ### Source text and names -/

/-- More text of the file that the latest source instruction embeds. -/
@[match_pattern] abbrev sourceContinued : Opcode := 2

/-- The language of the source, and possibly a file and its text. -/
@[match_pattern] abbrev source : Opcode := 3

/-- An extension of the source language in use. -/
@[match_pattern] abbrev sourceExtension : Opcode := 4

/-- The name of an identifier. -/
@[match_pattern] abbrev name : Opcode := 5

/-- The name of a member of a structure. -/
@[match_pattern] abbrev memberName : Opcode := 6

/-- A string. -/
@[match_pattern] abbrev string : Opcode := 7

/-- A step that a module has been processed by. -/
@[match_pattern] abbrev moduleProcessed : Opcode := 330

/-- The line that the instructions behind it come from. -/
@[match_pattern] abbrev line : Opcode := 8

/-- The end of a line's range. -/
@[match_pattern] abbrev noLine : Opcode := 317

/-! ### What a module needs and how it is entered -/

/-- A capability that a module needs. -/
@[match_pattern] abbrev capability : Opcode := 17

/-- An extension that a module needs. -/
@[match_pattern] abbrev extension : Opcode := 10

/-- The import of a set of extended instructions. -/
@[match_pattern] abbrev importSet : Opcode := 11

/-- An instruction of an imported set. -/
@[match_pattern] abbrev extended : Opcode := 12

/-- How memory is addressed and ordered. -/
@[match_pattern] abbrev memoryModel : Opcode := 14

/-- An entry point: its execution model, its function and its name. -/
@[match_pattern] abbrev entryPoint : Opcode := 15

/-- A mode that an entry point is run in. -/
@[match_pattern] abbrev executionMode : Opcode := 16

/-- A mode whose operands are identifiers. -/
@[match_pattern] abbrev executionModeId : Opcode := 331

/-! ### Decorations -/

/-- A decoration of an identifier. -/
@[match_pattern] abbrev decorate : Opcode := 71

/-- A decoration of a member of a structure. -/
@[match_pattern] abbrev memberDecorate : Opcode := 72

/-- A group of decorations. -/
@[match_pattern] abbrev decorationGroup : Opcode := 73

/-- The use of a group on identifiers. -/
@[match_pattern] abbrev groupDecorate : Opcode := 74

/-- The use of a group on members. -/
@[match_pattern] abbrev groupMemberDecorate : Opcode := 75

/-- A decoration whose operands are identifiers. -/
@[match_pattern] abbrev decorateId : Opcode := 332

/-- A decoration of an identifier with a string. -/
@[match_pattern] abbrev decorateString : Opcode := 5632

/-- A decoration of a member with a string. -/
@[match_pattern] abbrev memberDecorateString : Opcode := 5633

/-! ### Types -/

/-- The first of the types, which has no values. -/
@[match_pattern] abbrev voidType : Opcode := 19

/-- The type of truth values. -/
@[match_pattern] abbrev boolType : Opcode := 20

/-- A type of integers. -/
@[match_pattern] abbrev intType : Opcode := 21

/-- A type of floating-point numbers. -/
@[match_pattern] abbrev floatType : Opcode := 22

/-- A type of vectors. -/
@[match_pattern] abbrev vectorType : Opcode := 23

/-- A type of matrices. -/
@[match_pattern] abbrev matrixType : Opcode := 24

/-- A type of images. -/
@[match_pattern] abbrev imageType : Opcode := 25

/-- The type of samplers. -/
@[match_pattern] abbrev samplerType : Opcode := 26

/-- A type of images with their samplers. -/
@[match_pattern] abbrev sampledImageType : Opcode := 27

/-- A type of arrays of one length. -/
@[match_pattern] abbrev arrayType : Opcode := 28

/-- A type of arrays of any length. -/
@[match_pattern] abbrev runtimeArrayType : Opcode := 29

/-- A type of structures. -/
@[match_pattern] abbrev structType : Opcode := 30

/-- A type with a name and no known structure. -/
@[match_pattern] abbrev namedType : Opcode := 31

/-- A type of pointers. -/
@[match_pattern] abbrev pointerType : Opcode := 32

/-- A type of functions. -/
@[match_pattern] abbrev functionType : Opcode := 33

/-- The last of the types that follow one another: the type of pipes. -/
@[match_pattern] abbrev pipeType : Opcode := 38

/-- The announcement of a pointer type. -/
@[match_pattern] abbrev forwardPointer : Opcode := 39

/-- The type of ray queries. -/
@[match_pattern] abbrev rayQueryType : Opcode := 4472

/-- The type of acceleration structures. -/
@[match_pattern] abbrev accelerationStructureType : Opcode := 5341

/-! ### Constants, variables and functions -/

/-- A value of no importance. -/
@[match_pattern] abbrev undefined : Opcode := 1

/-- The first of the constants: the truth value that holds. -/
@[match_pattern] abbrev constantTrue : Opcode := 41

/-- The truth value that does not hold. -/
@[match_pattern] abbrev constantFalse : Opcode := 42

/-- A constant number. -/
@[match_pattern] abbrev constant : Opcode := 43

/-- A constant made of other constants. -/
@[match_pattern] abbrev constantComposite : Opcode := 44

/-- A constant sampler. -/
@[match_pattern] abbrev constantSampler : Opcode := 45

/-- The last of the constants: the zero of a type. -/
@[match_pattern] abbrev constantNull : Opcode := 46

/-- The first of the constants that can be specialized: a truth value that holds at first. -/
@[match_pattern] abbrev specConstantTrue : Opcode := 48

/-- A truth value that does not hold at first and can be specialized. -/
@[match_pattern] abbrev specConstantFalse : Opcode := 49

/-- A number that can be specialized. -/
@[match_pattern] abbrev specConstant : Opcode := 50

/-- A constant made of constants that can be specialized. -/
@[match_pattern] abbrev specConstantComposite : Opcode := 51

/-- The last of the constants that can be specialized: the result of an operation. -/
@[match_pattern] abbrev specConstantOp : Opcode := 52

/-- A constant pipe, whose number is apart from those of the other constants. -/
@[match_pattern] abbrev constantPipe : Opcode := 323

/-- A variable outside of functions. -/
@[match_pattern] abbrev globalVariable : Opcode := 59

/-- The beginning of a function. -/
@[match_pattern] abbrev function : Opcode := 54

/-- The end of a function. -/
@[match_pattern] abbrev functionEnd : Opcode := 56

/-! ### What functions do -/

/-- The call of a function. -/
@[match_pattern] abbrev functionCall : Opcode := 57

/-- A value read from memory. -/
@[match_pattern] abbrev load : Opcode := 61

/-- A value written to memory. -/
@[match_pattern] abbrev store : Opcode := 62

/-- A pointer to a part of what a pointer leads to. -/
@[match_pattern] abbrev accessChain : Opcode := 65

/-- The first of the atomic operations: a value read at once. -/
@[match_pattern] abbrev atomicLoad : Opcode := 227

/-- A value written at once. -/
@[match_pattern] abbrev atomicStore : Opcode := 228

/-- The last of the atomic operations that follow one another. -/
@[match_pattern] abbrev atomicXor : Opcode := 242

/-! ### Operations on numbers -/

/-- The whole part of a floating-point number as an unsigned integer. -/
@[match_pattern] abbrev floatToUnsigned : Opcode := 109

/-- The whole part of a floating-point number as a signed integer. -/
@[match_pattern] abbrev floatToSigned : Opcode := 110

/-- A signed integer as a floating-point number. -/
@[match_pattern] abbrev signedToFloat : Opcode := 111

/-- An unsigned integer as a floating-point number. -/
@[match_pattern] abbrev unsignedToFloat : Opcode := 112

/-- An unsigned integer in another width. -/
@[match_pattern] abbrev unsignedConvert : Opcode := 113

/-- A signed integer in another width. -/
@[match_pattern] abbrev signedConvert : Opcode := 114

/-- A floating-point number in another width. -/
@[match_pattern] abbrev floatConvert : Opcode := 115

/-- The same bits as a value of another type. -/
@[match_pattern] abbrev bitcast : Opcode := 124

/-- The negative of a signed integer. -/
@[match_pattern] abbrev signedNegate : Opcode := 126

/-- The negative of a floating-point number. -/
@[match_pattern] abbrev floatNegate : Opcode := 127

/-- A sum of integers. -/
@[match_pattern] abbrev integerAdd : Opcode := 128

/-- A sum of floating-point numbers. -/
@[match_pattern] abbrev floatAdd : Opcode := 129

/-- A difference of integers. -/
@[match_pattern] abbrev integerSubtract : Opcode := 130

/-- A difference of floating-point numbers. -/
@[match_pattern] abbrev floatSubtract : Opcode := 131

/-- A product of integers. -/
@[match_pattern] abbrev integerMultiply : Opcode := 132

/-- A product of floating-point numbers. -/
@[match_pattern] abbrev floatMultiply : Opcode := 133

/-- A quotient of unsigned integers. -/
@[match_pattern] abbrev unsignedDivide : Opcode := 134

/-- A quotient of signed integers, rounded toward zero. -/
@[match_pattern] abbrev signedDivide : Opcode := 135

/-- A quotient of floating-point numbers. -/
@[match_pattern] abbrev floatDivide : Opcode := 136

/-- The remainder of a quotient of unsigned integers. -/
@[match_pattern] abbrev unsignedModulo : Opcode := 137

/-- The remainder of a quotient of signed integers. -/
@[match_pattern] abbrev signedRemainder : Opcode := 138

/-- The modulus of signed integers. -/
@[match_pattern] abbrev signedModulo : Opcode := 139

/-- The remainder of a quotient of floating-point numbers. -/
@[match_pattern] abbrev floatRemainder : Opcode := 140

/-- The modulus of floating-point numbers. -/
@[match_pattern] abbrev floatModulo : Opcode := 141

/-- Whether two integers are the same. -/
@[match_pattern] abbrev integerEqual : Opcode := 170

/-- Whether two integers differ. -/
@[match_pattern] abbrev integerNotEqual : Opcode := 171

/-- A shift to the right that fills with zeros. -/
@[match_pattern] abbrev shiftRightLogical : Opcode := 194

/-- A shift to the right that fills with the sign. -/
@[match_pattern] abbrev shiftRightArithmetic : Opcode := 195

/-- A shift to the left. -/
@[match_pattern] abbrev shiftLeft : Opcode := 196

/-- The bits that one of two values has. -/
@[match_pattern] abbrev bitwiseOr : Opcode := 197

/-- The bits in which two values differ. -/
@[match_pattern] abbrev bitwiseXor : Opcode := 198

/-- The bits that both of two values have. -/
@[match_pattern] abbrev bitwiseAnd : Opcode := 199

/-- The bits that a value does not have. -/
@[match_pattern] abbrev complement : Opcode := 200

/-! ### Ranges of opcodes -/

/-- Whether an opcode is that of a type whose number is between those of `voidType` and
`pipeType`. -/
def isType (opcode : Opcode) : Bool := voidType ≤ opcode && opcode ≤ pipeType

/-- Whether an opcode is that of a constant. -/
def isConstant (opcode : Opcode) : Bool :=
  (constantTrue ≤ opcode && opcode ≤ constantNull) ||
    (specConstantTrue ≤ opcode && opcode ≤ specConstantOp) || opcode == constantPipe

/-- Whether an opcode is that of an atomic operation between `atomicLoad` and `atomicXor`. -/
def isAtomic (opcode : Opcode) : Bool := atomicLoad ≤ opcode && opcode ≤ atomicXor

end Opcode

end ShaderGuard.Bytecode
