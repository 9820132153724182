import ShaderGuard.Bytecode.Interface.Types

/-!
The variables that a module declares, and their descriptor sets.

A variable is a descriptor if its pointer leads to where descriptors live, and to a type that they
can have or to an array of one. It is in the set that it names, if it also names a binding, and in
set zero otherwise.
-/

set_option autoImplicit false

namespace ShaderGuard.Bytecode.Interface

/-- The storage class of images and samplers. -/
def uniformConstantClass : UInt32 := 0

/-- The storage class of uniform blocks. -/
def uniformClass : UInt32 := 2

/-- The storage class of storage buffers. -/
def storageBufferClass : UInt32 := 12

/-- Whether descriptors live in a storage class. -/
def isDescriptorClass (storageClass : UInt32) : Bool :=
  [uniformConstantClass, uniformClass, storageBufferClass].contains storageClass

/-- Whether a pointer with some class and pointee is one to descriptors. -/
def isDescriptor (storageClass : UInt32) (pointee : TypeShape) : Bool :=
  isDescriptorClass storageClass && pointee.element.isResource

/-- The descriptor set of a variable. One that has no binding counts as in set zero. -/
def setOf (interface : Interface) (id : UInt32) : UInt32 :=
  if (interface.operand? id Decoration.binding).isSome then
    (interface.operand? id Decoration.descriptorSet).getD 0
  else 0

/-- A variable behind a pointer, under an identifier that no other has. It is the pointer that says
where the variable lives. -/
def addVariable? (interface : Interface) (id storageClass : UInt32) (pointee : TypeShape) :
    Option Interface :=
  if id ∈ interface.declared then none
  else
    some { interface with
      declared := id :: interface.declared
      sets :=
        if isDescriptor storageClass pointee then
          KeySet.add interface.sets (interface.setOf id)
        else interface.sets }

/-- The declaration of a variable, with its type as the first operand: a known pointer. A variable
of an unknown type is skipped. -/
def declareVariable? (interface : Interface) : List UInt32 → Option Interface
  | type :: id :: storageClass :: _ =>
    if isStorageClass storageClass then
      match interface.types.get? type with
      | none => some interface
      | some (.pointer pointerClass pointee) => interface.addVariable? id pointerClass pointee
      | some _ => none
    else none
  | _ => none

end ShaderGuard.Bytecode.Interface
