import ShaderGuard.Handle

/-!
What can go wrong across the boundary of the library.

Most failures stay inside the call in which they arise: they are logged, and the shader runs
uninstrumented. The faults here are those that a caller sees.
-/

set_option autoImplicit false

namespace ShaderGuard

/-- A failure that a caller sees. -/
inductive Fault where
  /-- The device cannot be set up for instrumentation. -/
  | initializationFailed (reason : String)
  /-- A call to the device failed. -/
  | backend (reason : String)
  /-- Code could not be read as a shader. -/
  | invalidShader (reason : String)
  /-- A pass, the validator or the optimizer refused a shader. -/
  | instrumentationFailed (reason : String)
  /-- Nobody has announced the deferred operation. -/
  | deferredOperationNotTracked (operation : DeferredHandle)
  /-- An earlier internal error has switched instrumentation off. -/
  | subsystemDisabled
  deriving DecidableEq

/-- The name of the kind of a fault. -/
def Fault.kind : Fault → String
  | .initializationFailed _ => "InitializationFailed"
  | .backend _ => "BackendError"
  | .invalidShader _ => "InvalidShader"
  | .instrumentationFailed _ => "InstrumentationFailed"
  | .deferredOperationNotTracked _ => "DeferredOperationNotTracked"
  | .subsystemDisabled => "SubsystemDisabled"

/-- The text of a fault. -/
def Fault.message : Fault → String
  | .initializationFailed reason => s!"Initialization failed: {reason}"
  | .backend reason => s!"Backend error: {reason}"
  | .invalidShader reason => s!"Invalid shader: {reason}"
  | .instrumentationFailed reason => s!"Instrumentation failed: {reason}"
  | .deferredOperationNotTracked operation =>
    s!"Deferred operation {operation.prefixedHex} has no pending post-completion list"
  | .subsystemDisabled => "Shader instrumentation is disabled"

end ShaderGuard
