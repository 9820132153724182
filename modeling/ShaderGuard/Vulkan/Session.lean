import ShaderGuard.Instrumentor.Setup
import ShaderGuard.Vulkan.Driver

/-!
Instrumentation of a Vulkan device.
-/

set_option autoImplicit false

namespace ShaderGuard.Vulkan

variable {P : Platform}

/-- Query the capabilities of a physical device and set its instrumentation up. Where the setup
fails the instrumentation is there all the same, switched off. -/
def start (physical : PhysicalDevice P.DeviceState) (s : Instrumentor P) :
    Except Fault Unit × Instrumentor P :=
  let queried := s.after (queryCapabilities physical s.device)
  match queried.1 with
  | .error fault => (.error fault, queried.2)
  | .ok capabilities => (.ok (), (queried.2.setUpDevice capabilities).2)

end ShaderGuard.Vulkan
