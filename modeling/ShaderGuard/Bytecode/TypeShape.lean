import ShaderGuard.Bytecode.Constant

/-!
What is known of the types of a module: as much as tells which variables are descriptors.
-/

set_option autoImplicit false

namespace ShaderGuard.Bytecode

/-- What is known of a type. -/
inductive TypeShape where
  | scalar (type : ScalarType)
  | vector
  | matrix
  | image
  /-- An image that the same pass has written. -/
  | attachment
  | sampler
  | sampledImage
  | array (element : TypeShape)
  | struct
  | pointer (storageClass : UInt32) (pointee : TypeShape)
  /-- A pointer that is announced and not yet declared. -/
  | announced
  | accelerationStructure
  | rayQuery
  deriving DecidableEq

namespace TypeShape

/-- The type of the elements of an array, and any other type itself. -/
def element : TypeShape → TypeShape
  | .array element => element
  | shape => shape

/-- Whether a descriptor can have a type. -/
def isResource : TypeShape → Bool
  | .image | .attachment | .sampler | .sampledImage | .struct | .accelerationStructure => true
  | _ => false

/-- Whether a type is that of a declared pointer. -/
def isPointer : TypeShape → Bool
  | .pointer _ _ => true
  | _ => false

end TypeShape

end ShaderGuard.Bytecode
