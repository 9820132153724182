/-!
Settings of the instrumentation, fixed when it starts.
-/

set_option autoImplicit false

namespace ShaderGuard

/-- Which families of checks are added to shaders. -/
structure CheckSettings where
  /-- Checks of descriptor arrays, and of the bounds of buffers and texel buffers. -/
  bindlessDescriptor : Bool := true
  /-- Checks of accesses through device addresses. -/
  bufferDeviceAddress : Bool := true
  /-- Checks of the parameters of ray queries. -/
  rayQuery : Bool := true
  /-- Recording of the descriptor array elements that are accessed. -/
  postProcessDescriptorIndex : Bool := true
  deriving DecidableEq

namespace CheckSettings

/-- No checks. -/
def none : CheckSettings := ⟨false, false, false, false⟩

/-- Whether there is any check. -/
def anyEnabled (checks : CheckSettings) : Bool :=
  checks.bindlessDescriptor || checks.bufferDeviceAddress || checks.rayQuery ||
    checks.postProcessDescriptorIndex

@[simp] theorem anyEnabled_none : none.anyEnabled = false := rfl

end CheckSettings

/-- All settings. -/
structure Settings where
  /-- Shaders are known by a fingerprint of their code, and what was made of one is used again. -/
  cacheInstrumentedShaders : Bool := true
  /-- Only shaders whose creation asks for it are instrumented. -/
  selectInstrumentedShaders : Bool := false
  /-- The application is told of one descriptor set less than the device has. -/
  reserveBindingSlot : Bool := false
  /-- The layer's lock is taken where it is needed, not for whole calls. -/
  fineGrainedLocking : Bool := true
  checks : CheckSettings := {}
  /-- Printing from shaders is rewritten to the output buffer. -/
  printfEnabled : Bool := false
  /-- Printing from shaders is all there is. -/
  printfOnly : Bool := false
  /-- Every instrumented shader is validated. -/
  validateInstrumented : Bool := false
  /-- The stages of each shader's instrumentation are written to files. -/
  dumpInstrumented : Bool := false
  /-- Where these files go; without it, where the program runs. -/
  dumpDirectory : Option String := none
  /-- The passes print what they do. -/
  printInstrumentationInfo : Bool := false
  /-- The greatest number of instrumented places in a shader; zero sets no limit. -/
  maxInstrumentations : UInt32 := 0
  deriving DecidableEq

namespace Settings

/-- The settings for printing from shaders alone. -/
def printfAlone : Settings :=
  { checks := .none, printfEnabled := true, printfOnly := true }

/-- Whether any shader is rewritten at all. -/
def modifiesShaders (settings : Settings) : Bool :=
  settings.checks.anyEnabled || settings.printfEnabled

/-- The name under which the layer speaks of itself. -/
def layerName (settings : Settings) : String :=
  if settings.printfOnly then "DebugPrintf" else "GPU-AV"

end Settings

end ShaderGuard
