import ShaderGuard.Log
import ShaderGuard.Pipeline.CreateInfo
import ShaderGuard.Reservation

/-!
The device, as far as the library needs it.

The library creates and destroys a few objects of its own. A device may keep a state of its own,
which each call hands on, and may add notes to the log; nothing is assumed about its answers.
-/

set_option autoImplicit false

namespace ShaderGuard

/-- The answer of a device to a call. -/
structure Reply (σ α : Type) where
  value : α
  /-- What the device adds to the log. -/
  notes : List Note
  state : σ

/-- A device whose own state is of type `σ`. -/
structure Device (σ : Type) where
  /-- A descriptor set layout with some bindings; without any it is a placeholder. -/
  createSetLayout : List SetBinding → σ → Reply σ (Except Fault SetLayoutHandle)
  createPipelineLayout : List SetLayoutHandle → σ → Reply σ (Except Fault PipelineLayoutHandle)
  createModule : Code → σ → Reply σ (Except Fault ModuleHandle)
  /-- A graphics library like the one that the application has created from this, with the code
  that stands there now. -/
  createLibrary : GraphicsInfo → σ → Reply σ (Except Fault PipelineHandle)
  destroySetLayout : SetLayoutHandle → σ → Reply σ Unit
  destroyPipelineLayout : PipelineLayoutHandle → σ → Reply σ Unit
  destroyModule : ModuleHandle → σ → Reply σ Unit
  destroyPipeline : PipelineHandle → σ → Reply σ Unit

end ShaderGuard
