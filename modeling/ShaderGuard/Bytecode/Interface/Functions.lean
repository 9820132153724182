import ShaderGuard.Bytecode.Instruction
import ShaderGuard.Bytecode.Interface

/-!
The functions that a module declares.

Of what functions do, only the access to memory is looked at: an instruction must have the operands
that say what is accessed, and the pointers to parts must have identifiers of their own. A function
counts from its end on.
-/

set_option autoImplicit false

namespace ShaderGuard.Bytecode.Interface

/-- A function that ends, under an identifier that no other has. -/
def addFunction? (interface : Interface) (id : UInt32) : Option Interface :=
  if id ∈ interface.functions then none
  else some { interface with functions := id :: interface.functions }

/-- The number of operands that an instruction of a function has at least. -/
def leastOperands (opcode : Opcode) : Nat :=
  if [.store, .atomicStore].contains opcode then 1
  else if opcode = .function then 2
  else if [.functionCall, .load, .accessChain].contains opcode || opcode.isAtomic then 3
  else 0

/-- A pointer to a part, under an identifier that no other such pointer has. -/
def addAccess? (interface : Interface) (id : UInt32) : Option Interface :=
  if id ∈ interface.accesses then none
  else some { interface with accesses := id :: interface.accesses }

/-- One instruction of a function with some identifier, if it makes sense. -/
def functionStep? (interface : Interface) (function : UInt32) (instruction : Instruction) :
    Option Interface :=
  if instruction.operands.length < leastOperands instruction.opcode then none
  else
    match instruction.opcode with
    | .accessChain => interface.addAccess? (instruction.word 2)
    | .functionEnd => interface.addFunction? function
    | _ => some interface

end ShaderGuard.Bytecode.Interface
