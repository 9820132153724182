import ShaderGuard.Bytecode.Instruction
import ShaderGuard.Bytecode.Interface

/-!
The types that a module declares.

A type may be built of others that stand before it. Where these are unknown, vectors, matrices and
images make no sense, but arrays, structures and pointers are skipped and stay unknown themselves;
so are types of functions. A type that is skipped takes up no identifier.
-/

set_option autoImplicit false

namespace ShaderGuard.Bytecode

/-- What becomes of the declaration of a type. -/
inductive TypeOutcome where
  /-- It makes no sense. -/
  | refused
  /-- It stays unknown. -/
  | skipped
  | known (shape : TypeShape)
  deriving DecidableEq

namespace TypeOutcome

/-- A type that is known on a condition, without which its declaration makes no sense. -/
def knownIf (condition : Bool) (shape : TypeShape) : TypeOutcome :=
  if condition then .known shape else .refused

/-- A type that is built of one that may be unknown. -/
def ofPart (part : Option TypeShape) (build : TypeShape → TypeOutcome) : TypeOutcome :=
  match part with
  | none => .skipped
  | some shape => build shape

end TypeOutcome

namespace Interface

/-- The type of single values under an identifier. -/
def scalar? (interface : Interface) (id : UInt32) : Option ScalarType :=
  match interface.types.get? id with
  | some (.scalar type) => some type
  | _ => none

/-- A type of images, by its dimensions, by two numbers that say whether it holds depths and whether
it has a sampler, and by its format. Those two numbers do not count for attachments. -/
def imageType (interface : Interface) (texel dimensions depth sampled format : UInt32) :
    TypeOutcome :=
  let isAttachment := dimensions == attachmentDimensions
  .knownIf
    ((interface.scalar? texel).isSome && isDimensionality dimensions && isImageFormat format &&
      (isAttachment || isIndication depth && isIndication sampled))
    (if isAttachment then .attachment else .image)

/-- A type of structures, from a member on, none of which may be inaccessible. -/
def structType (interface : Interface) (id : UInt32) : UInt32 → List UInt32 → TypeOutcome
  | _, [] => .known .struct
  | index, member :: rest =>
    .ofPart (interface.types.get? member) fun _ ↦
      if interface.isInaccessible ⟨id, some index⟩ then .refused
      else interface.structType id (index + 1) rest

/-- The type that an instruction declares, with its identifier as the first operand. -/
def declaredType (interface : Interface) (opcode : Opcode) (operands : List UInt32) :
    TypeOutcome :=
  match opcode, operands with
  | .voidType, _ :: _ => .known (.scalar .void)
  | .boolType, _ :: _ => .known (.scalar .boolean)
  | .intType, _ :: width :: signed :: _ => .known (.scalar (.integer width.toNat (signed != 0)))
  | .floatType, _ :: width :: _ => .known (.scalar (.float width.toNat))
  | .vectorType, _ :: component :: _ :: _ =>
    .knownIf (interface.scalar? component).isSome .vector
  | .matrixType, _ :: column :: _ :: _ =>
    .knownIf (interface.types.get? column = some .vector) .matrix
  | .imageType, _ :: texel :: dimensionality :: depth :: _ :: _ :: sampled :: format :: _ =>
    interface.imageType texel dimensionality depth sampled format
  | .samplerType, _ :: _ => .known .sampler
  | .sampledImageType, _ :: image :: _ =>
    .knownIf (interface.types.get? image = some .image) .sampledImage
  | .arrayType, _ :: element :: length :: _ =>
    .ofPart (interface.types.get? element) fun shape ↦
      .knownIf ((interface.constants.get? length).any Constant.isLength) (.array shape)
  | .runtimeArrayType, _ :: element :: _ =>
    .ofPart (interface.types.get? element) fun shape ↦ .known (.array shape)
  | .structType, id :: members => interface.structType id 0 members
  | .pointerType, _ :: storageClass :: pointee :: _ =>
    if isStorageClass storageClass then
      .ofPart (interface.types.get? pointee) fun shape ↦ .known (.pointer storageClass shape)
    else .refused
  | .forwardPointer, _ :: storageClass :: _ => .knownIf (isStorageClass storageClass) .announced
  | .accelerationStructureType, _ :: _ => .known .accelerationStructure
  | .rayQueryType, _ :: _ => .known .rayQuery
  | .functionType, _ => .skipped
  | _, _ => .refused

/-- Whether a type may be declared under an identifier: one that has no type yet, or one that is
announced as a pointer, if it is a pointer. -/
def mayDeclare (interface : Interface) (id : UInt32) (shape : TypeShape) : Bool :=
  match interface.types.get? id with
  | none => true
  | some .announced => shape.isPointer
  | some _ => false

/-- The declaration of a type. -/
def addType? (interface : Interface) (opcode : Opcode) (operands : List UInt32) :
    Option Interface :=
  match interface.declaredType opcode operands, operands with
  | .skipped, _ => some interface
  | .known shape, id :: _ =>
    if interface.mayDeclare id shape then
      some { interface with types := interface.types.insert id shape }
    else none
  | _, _ => none

end Interface

end ShaderGuard.Bytecode
