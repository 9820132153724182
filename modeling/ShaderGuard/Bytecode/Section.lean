import ShaderGuard.Bytecode.Opcode

/-!
The sections of a module.

A module is laid out in sections that follow one another: capabilities, extensions, imports, the
memory model, entry points, execution modes, names and sources, decorations, then types, constants
and variables, and last functions. `Section.next?` gives the section that an instruction is in, by
its opcode and by how far the module has come.
-/

set_option autoImplicit false

namespace ShaderGuard.Bytecode

/-- The sections of a module, in order. -/
inductive Section where
  | capabilities
  | extensions
  | imports
  | memoryModel
  | entryPoints
  | executionModes
  | names
  | decorations
  | definitions
  | functions
  deriving DecidableEq

namespace Section

/-- All sections, in order. -/
def all : List Section :=
  [.capabilities, .extensions, .imports, .memoryModel, .entryPoints, .executionModes, .names,
    .decorations, .definitions, .functions]

/-- The place of a section in a module. -/
def rank : Section → Nat
  | .capabilities => 0
  | .extensions => 1
  | .imports => 2
  | .memoryModel => 3
  | .entryPoints => 4
  | .executionModes => 5
  | .names => 6
  | .decorations => 7
  | .definitions => 8
  | .functions => 9

/-- Whether an instruction outside of functions can stand in a section, by its opcode. Lines can
stand among definitions and between functions. -/
def holds (opcode : Opcode) : Section → Bool
  | .capabilities => opcode == .capability
  | .extensions => opcode == .extension
  | .imports => opcode == .importSet
  | .memoryModel => opcode == .memoryModel
  | .entryPoints => opcode == .entryPoint
  | .executionModes => [.executionMode, .executionModeId].contains opcode
  | .names =>
    [.sourceContinued, .source, .sourceExtension, .name, .memberName, .string,
      .moduleProcessed].contains opcode
  | .decorations =>
    [.decorate, .memberDecorate, .decorationGroup, .groupDecorate, .groupMemberDecorate,
      .decorateId, .decorateString, .memberDecorateString].contains opcode
  | .definitions =>
    [.undefined, .line, .noLine, .extended, .globalVariable, .forwardPointer, .rayQueryType,
        .accelerationStructureType].contains opcode ||
      opcode.isType || opcode.isConstant
  | .functions => [.function, .line, .noLine].contains opcode

/-- Whether a section may come behind an instruction of another one, or of the same: sections do
not go back, and there is one memory model. -/
def mayFollow (next reached : Section) : Bool :=
  if next = .memoryModel then reached.rank < next.rank else reached.rank ≤ next.rank

/-- The section of an instruction outside of functions: the first that may come now and holds it. -/
def next? (reached : Section) (opcode : Opcode) : Option Section :=
  all.find? fun next ↦ next.mayFollow reached && next.holds opcode

/-- Sections do not go back. -/
theorem rank_le_of_next? {reached next : Section} {opcode : Opcode}
    (h : reached.next? opcode = some next) : reached.rank ≤ next.rank := by
  have hfollow := List.find?_some h
  simp only [Bool.and_eq_true, mayFollow] at hfollow
  have hrank := hfollow.1
  split at hrank <;> simp only [decide_eq_true_eq] at hrank <;> omega

end Section

end ShaderGuard.Bytecode
