import ShaderGuard.Bytecode.Interface.Constants
import ShaderGuard.Bytecode.Interface.Functions
import ShaderGuard.Bytecode.Interface.Resources
import ShaderGuard.Bytecode.Section

/-!
The descriptor sets that a module uses.

`activeSets` reads a module section by section and gives the descriptor sets of its variables; a
module that breaks the order of its sections, or that a reader could not make sense of, is refused.
-/

set_option autoImplicit false

namespace ShaderGuard.Bytecode

/-- One instruction outside of functions, if it makes sense. -/
def Interface.step? (interface : Interface) (instruction : Instruction) : Option Interface :=
  let operands := instruction.operands
  match instruction.opcode with
  | .importSet => interface.addImport? operands
  | .memoryModel => if Interface.isMemoryModel operands then some interface else none
  | .entryPoint => interface.addEntryPoint? operands
  | .executionMode => if interface.isMode operands then some interface else none
  | .executionModeId =>
    if interface.isMode operands then some (interface.addModeOperands operands) else none
  | .name => if (literal? (operands.drop 1)).isSome then some interface else none
  | .memberName => if (literal? (operands.drop 2)).isSome then some interface else none
  | .decorate =>
    match operands with
    | id :: kind :: rest => interface.decorate? ⟨⟨id, none⟩, kind, rest⟩
    | _ => none
  | .memberDecorate =>
    match operands with
    | id :: member :: kind :: rest => interface.decorate? ⟨⟨id, some member⟩, kind, rest⟩
    | _ => none
  | .globalVariable => interface.declareVariable? operands
  | opcode =>
    if opcode.isType ||
        [.forwardPointer, .rayQueryType, .accelerationStructureType].contains opcode then
      interface.addType? opcode operands
    else if opcode.isConstant then interface.addConstant? opcode operands
    else some interface

/-- Where a reader of a module is. -/
structure Reader where
  interface : Interface := {}
  /-- The section that the latest instruction belongs to. -/
  reached : Section := .capabilities
  /-- The function that has begun last, unless it has ended. -/
  function : Option UInt32 := none

namespace Reader

/-- Read one instruction of a function, the first one included. A function that begins in another
one takes its place. -/
def stepInside? (reader : Reader) (function : UInt32) (instruction : Instruction) :
    Option Reader :=
  (reader.interface.functionStep? function instruction).map fun interface ↦
    let function :=
      match instruction.opcode with
      | .function => some (instruction.word 2)
      | .functionEnd => none
      | _ => some function
    { reader with interface, function }

/-- Read one instruction outside of functions, if the module may have it here. -/
def stepOutside? (reader : Reader) (instruction : Instruction) : Option Reader :=
  (reader.reached.next? instruction.opcode).bind fun reached ↦
    if instruction.opcode = .function then
      { reader with reached }.stepInside? (instruction.word 2) instruction
    else
      (reader.interface.step? instruction).map fun interface ↦ { reader with interface, reached }

/-- Read one instruction. -/
def step? (reader : Reader) (instruction : Instruction) : Option Reader :=
  match reader.function with
  | some function => reader.stepInside? function instruction
  | none => reader.stepOutside? instruction

/-- The descriptor sets that a reader has found at the end of a module: none without an entry
point. -/
def result? (reader : Reader) : Option SlotSet :=
  if reader.interface.modesResolve then
    some (if reader.interface.entryPoints.isEmpty then .empty else reader.interface.sets)
  else none

end Reader

/-- The descriptor sets of a module: those of its variables if it has an entry point, and none
otherwise. A last instruction that is cut off is ignored. -/
def activeSets (code : Code) : Option SlotSet :=
  let stream := cut (code.drop headerSize)
  if stream.2.head?.any fun first ↦ Instruction.announced first = 0 then none
  else (stream.1.foldlM Reader.step? {}).bind Reader.result?

end ShaderGuard.Bytecode
