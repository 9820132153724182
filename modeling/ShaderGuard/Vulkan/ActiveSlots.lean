import ShaderGuard.Bytecode.ActiveSets
import ShaderGuard.Log
import ShaderGuard.Vulkan.PhysicalDevice

/-!
The descriptor sets that the stages of a pipeline use, as they are filled into its creation.
-/

set_option autoImplicit false

namespace ShaderGuard.Vulkan

/-- What is logged of code that cannot be read. -/
def reflectionFailure : String := "SPIR-V reflection failed: ..."

/-- The descriptor sets that code declares. Code without the magic number is refused in silence;
code that cannot be read is refused and logged. -/
def activeDescriptorSets (code : Code) : Logged (Except Fault SlotSet) :=
  if Bytecode.hasMagic code then
    match Bytecode.activeSets code with
    | some sets => ⟨.ok sets, []⟩
    | none =>
      let failure := Note.backendFailure source reflectionFailure
      ⟨.error failure.2, [failure.1.entry]⟩
  else ⟨.error (.invalidShader "Not SPIR-V: missing magic number"), []⟩

/-- The warning for a stage that is left out. -/
def skippedStage (stage : ShaderStage) (fault : Fault) : Entry :=
  .plain .warning source
    s!"Skipping descriptor set reflection of {stage.stages.describe} stage: {fault.message}"

/-- Add the descriptor sets of one stage. One whose code is not known, or cannot be read, has
none. -/
def addActiveSlots (slots : Logged SlotSet) (stage : ShaderStage) : Logged SlotSet :=
  match stage.code with
  | none => slots
  | some code =>
    let declared := activeDescriptorSets code
    match declared.value with
    | .ok sets => ⟨KeySet.union slots.value sets, slots.log ++ declared.log⟩
    | .error fault =>
      ⟨slots.value, slots.log ++ declared.log ++ [skippedStage stage fault]⟩

/-- The descriptor sets that stages use together. -/
def stageActiveSlots (stages : List ShaderStage) : Logged SlotSet :=
  stages.foldl addActiveSlots ⟨.empty, []⟩

end ShaderGuard.Vulkan
