import ShaderGuard.Bytecode.Fingerprint
import ShaderGuard.Capabilities
import ShaderGuard.Fault

/-!
The tools that work on shaders.

How a check looks in code is the affair of a toolchain. The library decides which passes run on
which shader, in which order, and what becomes of the result. A toolchain may keep a state of its
own, which each call hands on; nothing is assumed about its answers.
-/

set_option autoImplicit false

namespace ShaderGuard

open Bytecode (ShaderId)

/-- What a toolchain is told about a module that it loads. -/
structure ModuleSettings where
  shaderId : ShaderId
  /-- The slot of the instrumentation's descriptor set. -/
  outputSet : UInt32
  printInfo : Bool
  /-- The greatest number of instrumented places; zero sets no limit. -/
  maxInstrumentations : UInt32
  nonSemanticInfo : Bool
  int64 : Bool
  memoryModelDeviceScope : Bool
  /-- Whether the shader is used with a layout that has a bindless set. -/
  bindless : Bool
  deriving DecidableEq

/-- The passes that may change a module and say whether they did. -/
inductive Pass where
  /-- Checks of descriptor arrays. -/
  | bindlessDescriptor
  /-- Checks of the bounds of buffers. -/
  | bufferBounds
  /-- Checks of the bounds of texel buffers. -/
  | texelBufferBounds
  /-- Checks of accesses through device addresses. -/
  | bufferDeviceAddress
  /-- Checks of the parameters of ray queries. -/
  | rayQuery
  /-- Recording of the descriptor array elements that are accessed. -/
  | descriptorIndexing
  /-- Rewriting of printing, to be written through a binding. -/
  | printf (binding : UInt32)
  deriving DecidableEq

/-- The name of a pass. -/
def Pass.name : Pass → String
  | .bindlessDescriptor => "bindless_descriptor"
  | .bufferBounds => "non_bindless_oob_buffer"
  | .texelBufferBounds => "non_bindless_oob_texel_buffer"
  | .bufferDeviceAddress => "buffer_device_address"
  | .rayQuery => "ray_query"
  | .descriptorIndexing => "post_process_descriptor_indexing"
  | .printf _ => "debug_printf"

/-- How serious a message of the optimizer is, the most serious first. -/
inductive ToolLevel where
  | fatal
  | internalError
  | error
  | warning
  | info
  | debug
  deriving DecidableEq

/-- All levels, the most serious first. -/
def ToolLevel.all : List ToolLevel := [.fatal, .internalError, .error, .warning, .info, .debug]

/-- The name of a level. -/
def ToolLevel.name : ToolLevel → String
  | .fatal => "fatal"
  | .internalError => "internal_error"
  | .error => "error"
  | .warning => "warning"
  | .info => "info"
  | .debug => "debug"

/-- Whether a message of this level is about an error. -/
def ToolLevel.isError : ToolLevel → Bool
  | .fatal | .internalError | .error => true
  | .warning | .info | .debug => false

/-- A message of the optimizer. -/
structure ToolMessage where
  level : ToolLevel
  /-- The index of the word that the message is about. -/
  position : Nat
  text : String
  deriving DecidableEq

/-- What the validator is to allow. -/
structure ValidatorOptions where
  relaxBlockLayout : Bool
  scalarBlockLayout : Bool
  uniformBufferStandardLayout : Bool
  deriving DecidableEq

/-- A toolchain whose own state is of type `σ`. -/
structure Toolchain (σ : Type) where
  /-- Loaded modules. -/
  Module : Type
  /-- Read code as a module. -/
  load : Code → ModuleSettings → σ → Except Fault Module × σ
  /-- Run a pass, and tell whether it changed the module. -/
  run : Pass → Module → σ → Bool × Module × σ
  /-- Add the functions that the passes so far have called. -/
  linkFunctions : Module → σ → Module × σ
  /-- Make the module legal again after the passes. -/
  postProcess : Module → σ → Module × σ
  /-- Write a module as code. -/
  serialize : Module → σ → Code × σ
  /-- Check code for an environment; a refusal says why. -/
  validate : Code → TargetEnv → ValidatorOptions → σ → Except String Unit × σ
  /-- Drop code that has no effect, with messages on the way; a failure says why. -/
  eliminateDeadCode : Code → TargetEnv → σ → Except String Code × List ToolMessage × σ

end ShaderGuard
