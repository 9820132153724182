import ShaderGuard.Text.Hex

/-!
Handles of device objects.

A handle is a 64-bit number that names an object; which kind of object it names is part of its
type, so a pipeline is never passed where a shader module is wanted. Zero names no object.
-/

set_option autoImplicit false

namespace ShaderGuard

/-- The kinds of objects that handles name. -/
inductive ObjectKind where
  | setLayout
  | pipelineLayout
  | shaderModule
  | pipeline
  | shaderObject
  | deferredOperation
  | commandBuffer
  deriving DecidableEq

/-- The name under which a handle of this kind is written. -/
def ObjectKind.handleName : ObjectKind → String
  | .setLayout => "DescriptorSetLayoutHandle"
  | .pipelineLayout => "PipelineLayoutHandle"
  | .shaderModule => "ShaderModuleHandle"
  | .pipeline => "PipelineHandle"
  | .shaderObject => "ShaderObjectHandle"
  | .deferredOperation => "DeferredOperationHandle"
  | .commandBuffer => "CommandBufferHandle"

/-- A handle of an object of the given kind. -/
structure Handle (kind : ObjectKind) where
  /-- The number that the device gave out. -/
  raw : UInt64
  deriving DecidableEq

/-- A descriptor set layout: one slot of a pipeline layout. -/
abbrev SetLayoutHandle := Handle .setLayout

/-- A pipeline layout. -/
abbrev PipelineLayoutHandle := Handle .pipelineLayout

/-- A shader module. -/
abbrev ModuleHandle := Handle .shaderModule

/-- A pipeline of any shape, or a pipeline library. -/
abbrev PipelineHandle := Handle .pipeline

/-- A shader that is bound without a pipeline. -/
abbrev ShaderObjectHandle := Handle .shaderObject

/-- A creation request that the driver finishes later. -/
abbrev DeferredHandle := Handle .deferredOperation

/-- The command buffer that recorded an action. -/
abbrev CommandBufferHandle := Handle .commandBuffer

namespace Handle

variable {kind : ObjectKind}

/-- The handle that names no object. -/
def null : Handle kind := ⟨0⟩

instance : Inhabited (Handle kind) := ⟨null⟩

/-- Whether the handle names no object. -/
def isNull (handle : Handle kind) : Bool := handle.raw == 0

@[simp] theorem isNull_iff (handle : Handle kind) : handle.isNull = true ↔ handle = null := by
  cases handle; simp [isNull, null]

theorem raw_injective {a b : Handle kind} (h : a.raw = b.raw) : a = b := by
  cases a; cases b; simpa using h

/-- The module recorded for a stage whose code stood in the stage itself, so that no module object
exists. It is the largest handle, which no driver gives out. -/
def inlinedStage : ModuleHandle := ⟨0xffffffffffffffff⟩

/-- The kind's name with the number in decimal, such as `PipelineHandle(5)`. -/
def describe (handle : Handle kind) : String :=
  s!"{kind.handleName}({handle.raw.toNat})"

/-- The number in lowercase hexadecimal, such as `2a`. -/
def hex (handle : Handle kind) : String := Text.hex handle.raw.toNat

/-- The number in lowercase hexadecimal behind `0x`. -/
def prefixedHex (handle : Handle kind) : String := Text.prefixedHex handle.raw.toNat

end Handle

end ShaderGuard
