import ShaderGuard.Instrumentor.State
import ShaderGuard.Violation

/-!
Commands of the application that instrumentation has to watch, and the reports of its shaders.
-/

set_option autoImplicit false

namespace ShaderGuard.Instrumentor

variable {P : Platform}

/-- Before the application records a wait for events. Instrumentation waits until a queue is
complete, so a wait for an event that the host sets later might never end. The answer says whether
the command is to be left out, which it never is. -/
def waitEvents (s : Instrumentor P) (commandBuffer : CommandBufferHandle) (stages : SyncStages)
    (location : String) : Bool × Instrumentor P :=
  if stages.contains SyncStages.host then
    (false, s.internalError location
      (s!"{location}: recorded with VK_PIPELINE_STAGE_HOST_BIT set (command buffer " ++
        s!"{commandBuffer.prefixedHex}). GPU-Assisted validation waits on queue completion. " ++
        "This wait could block the host's signaling of this event, resulting in deadlock."))
  else (false, s)

/-- The text of a shader's report. -/
def message (s : Instrumentor P) (violation : Violation) (names : ObjectNames) :
    String × Instrumentor P :=
  let text := violation.message (s.registry.get? violation.shaderId) names s.settings.printfOnly
  (text.value, { s with log := s.log ++ text.log })

end ShaderGuard.Instrumentor
