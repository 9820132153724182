import ShaderGuard.Bytecode.Enumerant
import ShaderGuard.Bytecode.ExecutionModel
import ShaderGuard.Bytecode.Literal
import ShaderGuard.Bytecode.TypeShape
import ShaderGuard.Pipeline.CreateInfo

/-!
What a module declares.

`Interface` holds what has been declared up to some place in a module. The functions here take the
instructions that stand before the types: imported sets, the memory model, entry points and their
modes, names, and decorations. Each takes the operands of an instruction and refuses those that make
no sense.
-/

set_option autoImplicit false

namespace ShaderGuard.Bytecode

/-- What is decorated: an identifier, or a member of one. -/
structure DecorationTarget where
  id : UInt32
  member : Option UInt32
  deriving DecidableEq

/-- A decoration with its operands. -/
structure Decoration where
  target : DecorationTarget
  kind : UInt32
  operands : List UInt32

namespace Decoration

/-- The kind that lets a constant be specialized, by a number. -/
def specId : UInt32 := 1

/-- The kind of what is never written. -/
def nonWritable : UInt32 := 24

/-- The kind of what is never read. -/
def nonReadable : UInt32 := 25

/-- The kind that names a variable's binding. -/
def binding : UInt32 := 33

/-- The kind that names a variable's descriptor set. -/
def descriptorSet : UInt32 := 34

end Decoration

/-- What a module has declared up to some place. -/
structure Interface where
  /-- The imported sets of instructions. -/
  imports : List UInt32 := []
  /-- The functions of the entry points. -/
  entryPoints : List UInt32 := []
  /-- The identifiers that execution modes have as operands. -/
  modeOperands : List UInt32 := []
  decorations : List Decoration := []
  types : Table UInt32 TypeShape := .empty
  constants : Table UInt32 Constant := .empty
  /-- The variables so far. -/
  declared : List UInt32 := []
  /-- The descriptor sets of those variables that are descriptors. -/
  sets : SlotSet := .empty
  /-- The functions so far. -/
  functions : List UInt32 := []
  /-- The pointers to parts so far, of all functions. -/
  accesses : List UInt32 := []

namespace Interface

/-! ### Decorations -/

/-- The decoration of a kind that a target has. -/
def decoration? (interface : Interface) (target : DecorationTarget) (kind : UInt32) :
    Option Decoration :=
  interface.decorations.find? fun decoration ↦
    decoration.target = target && decoration.kind == kind

/-- Whether a target is one that can be neither read nor written. -/
def isInaccessible (interface : Interface) (target : DecorationTarget) : Bool :=
  (interface.decoration? target Decoration.nonWritable).isSome &&
    (interface.decoration? target Decoration.nonReadable).isSome

/-- The first operand of the decoration of a kind that an identifier has. -/
def operand? (interface : Interface) (id kind : UInt32) : Option UInt32 :=
  (interface.decoration? ⟨id, none⟩ kind).bind fun decoration ↦ decoration.operands.head?

/-- Decorate a target, which must not have a decoration of that kind yet. -/
def decorate? (interface : Interface) (decoration : Decoration) : Option Interface :=
  if isDecoration decoration.kind &&
      (interface.decoration? decoration.target decoration.kind).isNone then
    some { interface with decorations := decoration :: interface.decorations }
  else none

/-! ### Imports, entry points and names -/

/-- The import of a set of instructions, by its name, under a new identifier. -/
def addImport? (interface : Interface) : List UInt32 → Option Interface
  | id :: name =>
    if id ∉ interface.imports ∧ (literal? name).isSome then
      some { interface with imports := id :: interface.imports }
    else none
  | [] => none

/-- Whether the operands of a memory model make sense. -/
def isMemoryModel : List UInt32 → Bool
  | addressing :: model :: _ => isShaderAddressingModel addressing && isShaderMemoryModel model
  | _ => false

/-- An entry point: an execution model, a function that is no entry point yet, and a name. -/
def addEntryPoint? (interface : Interface) : List UInt32 → Option Interface
  | model :: function :: name =>
    if (ExecutionModel.ofNumber? model).isSome ∧ function ∉ interface.entryPoints ∧
        (literal? name).isSome then
      some { interface with entryPoints := function :: interface.entryPoints }
    else none
  | _ => none

/-- A mode of an entry point. -/
def isMode (interface : Interface) : List UInt32 → Bool
  | function :: mode :: _ => interface.entryPoints.contains function && isExecutionMode mode
  | _ => false

/-- A mode whose operands are identifiers. They may be declared later on. -/
def addModeOperands (interface : Interface) (operands : List UInt32) : Interface :=
  { interface with modeOperands := operands.drop 2 ++ interface.modeOperands }

/-- Whether the identifiers that execution modes have as operands are constants. -/
def modesResolve (interface : Interface) : Bool :=
  interface.modeOperands.all interface.constants.contains

end Interface

end ShaderGuard.Bytecode
