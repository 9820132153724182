import ShaderGuard.Bytecode.Constant.Operation
import ShaderGuard.Bytecode.Interface.Types

/-!
The constants that a module declares.

Numbers, truth values and results of operations are known by their values. A constant that can be
specialized has to say by which number, unless it is computed from others. Constants that are made
of several values, samplers, pipes, and zeros of a type may be declared in any way but stay unknown,
so that nothing can be computed from them.
-/

set_option autoImplicit false

namespace ShaderGuard.Bytecode.Interface

/-- Whether a constant says by which number it can be specialized. -/
def isSpecialized (interface : Interface) (id : UInt32) : Bool :=
  (interface.operand? id Decoration.specId).isSome

/-- A truth value, of a known type. -/
def truth? (interface : Interface) (type : UInt32) (value : Bool) : Option Constant :=
  if interface.types.contains type then some (.truth value) else none

/-- A number, of a type of single values. -/
def number? (interface : Interface) (type : UInt32) (words : List UInt32) : Option Constant :=
  (interface.scalar? type).bind fun scalar ↦ Constant.ofWords? scalar words

/-- The result of an operation on known constants. -/
def operation? (interface : Interface) (type : UInt32) : List UInt32 → Option Constant
  | operation :: operands =>
    (interface.scalar? type).bind fun scalar ↦
      (operands.mapM interface.constants.get?).bind fun values ↦
        Constant.evaluate? operation.toNat scalar values
  | [] => none

/-- The constant that an instruction declares. -/
def declaredConstant? (interface : Interface) (opcode : Opcode) (type id : UInt32)
    (operands : List UInt32) : Option Constant :=
  if [.specConstantTrue, .specConstantFalse, .specConstant].contains opcode &&
      !interface.isSpecialized id then none
  else
    match opcode with
    | .constantTrue | .specConstantTrue => interface.truth? type true
    | .constantFalse | .specConstantFalse => interface.truth? type false
    | .constant | .specConstant => interface.number? type operands
    | .specConstantOp => interface.operation? type operands
    | _ => none

/-- The constants that stay unknown. -/
def unknownConstants : List Opcode :=
  [.constantComposite, .constantSampler, .constantNull, .specConstantComposite, .constantPipe]

/-- The declaration of a constant, under an identifier that has none yet. -/
def addConstant? (interface : Interface) (opcode : Opcode) (operands : List UInt32) :
    Option Interface :=
  if unknownConstants.contains opcode then some interface
  else
    match operands with
    | type :: id :: rest =>
      (interface.declaredConstant? opcode type id rest).bind fun constant ↦
        if interface.constants.contains id then none
        else some { interface with constants := interface.constants.insert id constant }
    | _ => none

end ShaderGuard.Bytecode.Interface
