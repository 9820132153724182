import ShaderGuard.Device
import ShaderGuard.Passes.Toolchain

/-!
The surroundings that the library works in.

A platform is a device, a toolchain and a place for files, each with a state of its own. Everything
that the library does is a function of these states, so that what holds for every platform holds
whatever the device and the tools do.
-/

set_option autoImplicit false

namespace ShaderGuard

/-- A place for files whose own state is of type `σ`. -/
structure Storage (σ : Type) where
  /-- Write code to a file; a failure says why. -/
  write : String → Code → σ → Except String Unit × σ

/-- A device, a toolchain and a place for files, with the types of their states. -/
structure Platform where
  DeviceState : Type
  device : Device DeviceState
  ToolState : Type
  tools : Toolchain ToolState
  StorageState : Type
  storage : Storage StorageState

/-- What a shader is worked on with: the tools, the place for files, and the log. -/
structure Workbench (P : Platform) where
  tools : P.ToolState
  storage : P.StorageState
  /-- All entries so far, the latest last. -/
  log : List Entry := []

/-- The workbench with one more entry in the log. -/
def Workbench.record {P : Platform} (bench : Workbench P) (entry : Entry) : Workbench P :=
  { bench with log := bench.log ++ [entry] }

end ShaderGuard
