import ShaderGuard.Device
import ShaderGuard.Vulkan.Conversion
import ShaderGuard.Vulkan.PhysicalDevice

/-!
A device behind the functions of Vulkan.

`device` turns a driver, a set of such functions, into a device for the library. A library is
created anew from its stages and its layout; all its other state takes default values, with viewport
and scissor left dynamic.
-/

set_option autoImplicit false

namespace ShaderGuard.Vulkan

/-- A stage of a graphics pipeline. -/
structure StageRequest where
  stages : UInt32
  module : UInt64
  /-- The code that is chained to the stage in place of a module. -/
  chained : Option Code
  entryPoint : String
  deriving DecidableEq

/-- The rasterization state of a pipeline. -/
structure RasterizationRequest where
  polygonMode : UInt32
  cullMode : UInt32
  frontFace : UInt32
  /-- Whether lines are one pixel wide. -/
  unitLineWidth : Bool
  deriving DecidableEq

/-- The numbers of viewports and scissors of a pipeline. -/
structure ViewportRequest where
  viewports : UInt32
  scissors : UInt32
  deriving DecidableEq

/-- The creation of one graphics pipeline library. -/
structure LibraryRequest where
  flags : UInt32
  stages : List StageRequest
  layout : UInt64
  /-- Which parts of a pipeline the library is. -/
  libraryFlags : UInt32
  dynamicStates : List UInt32
  viewport : Option ViewportRequest
  rasterization : Option RasterizationRequest
  /-- The number of samples. -/
  multisample : Option UInt32
  depthStencil : Bool
  deriving DecidableEq

/-- The functions of a driver whose state is of type `σ`. -/
structure Driver (σ : Type) where
  createDescriptorSetLayout : List LayoutBinding → σ → Except ResultCode UInt64 × σ
  createPipelineLayout : List UInt64 → σ → Except ResultCode UInt64 × σ
  createShaderModule : Code → σ → Except ResultCode UInt64 × σ
  /-- Create one pipeline with the help of a pipeline cache. -/
  createGraphicsPipelines : UInt64 → LibraryRequest → σ → Except ResultCode UInt64 × σ
  destroyDescriptorSetLayout : UInt64 → σ → σ
  destroyPipelineLayout : UInt64 → σ → σ
  destroyShaderModule : UInt64 → σ → σ
  destroyPipeline : UInt64 → σ → σ

/-- The flag of a library with fragment shaders. -/
def fragmentShaderLibrary : UInt32 := 0x4

/-- The flag of a library with the shaders before rasterization. -/
def preRasterizationLibrary : UInt32 := 0x2

/-- The byte index of the first zero in a text. -/
def nulIndex? (text : String) : Option Nat :=
  (text.toList.flatMap String.utf8EncodeChar).findIdx? (· == 0)

/-- A name as Vulkan takes it: a text without a zero byte, which would end it early. -/
structure EntryName where
  text : String
  unbroken : nulIndex? text = none

/-- The name with a text, or where the first zero byte is in the text. -/
def EntryName.ofText (text : String) : Except Nat EntryName :=
  match h : nulIndex? text with
  | some index => .error index
  | none => .ok ⟨text, h⟩

/-- What is wrong with a text that has its first zero byte at an index. -/
def brokenName (index : Nat) : Fault :=
  .invalidShader
    s!"Invalid entry point name: nul byte found in provided data at position: {index}"

/-- The names of the entry points of some stages. The first text that is no name is at fault. -/
def entryNames (stages : List ShaderStage) : Except Fault (List EntryName) :=
  (stages.mapM fun stage ↦ EntryName.ofText stage.entryPoint).mapError brokenName

/-- The code that a stage has to have chained to it if it has no module. -/
def chainedCode (stage : ShaderStage) : Code :=
  (stage.inlined.map InlineCode.code).getD []

/-- A stage as Vulkan takes it, with the name of its entry point: with its module, or else with code
chained to it. -/
def StageRequest.ofStage (stage : ShaderStage) (name : EntryName) (code : Code) : StageRequest :=
  { stages := stage.stages.toVulkan
    module := if stage.module.isNull then 0 else stage.module.toVulkan
    chained := if stage.module.isNull then some code else none
    entryPoint := name.text }

/-- The stages of a library with their names and with the code to chain to them. -/
def stageRequests (stages : List ShaderStage) (names : List EntryName) : List StageRequest :=
  ((stages.zip names).zip (stages.map chainedCode)).map fun named ↦
    .ofStage named.1.1 named.1.2 named.2

/-- The creation of a library like the one that was created from `info`, with the names of its entry
points. -/
def LibraryRequest.ofInfo (info : GraphicsInfo) (names : List EntryName) : LibraryRequest :=
  let fragment := anyFragment info.stages
  { flags := info.flags.toVulkan ||| CreationFlags.library.toVulkan
    stages := stageRequests info.stages names
    layout := (info.layout.map fun layout ↦ layout.handle.toVulkan).getD 0
    libraryFlags := if fragment then fragmentShaderLibrary else preRasterizationLibrary
    dynamicStates := [0, 1]
    viewport := if fragment then none else some ⟨1, 1⟩
    rasterization := if fragment then none else some ⟨0, 0, 0, true⟩
    multisample := if fragment then some 1 else none
    depthStencil := fragment }

variable {σ : Type}

/-- The device's answer for what a driver's function has returned. A failure is logged. -/
def creation {kind : ObjectKind} (call : String) (returned : Except ResultCode UInt64 × σ) :
    Reply σ (Except Fault (Handle kind)) :=
  match returned.1 with
  | .ok raw => ⟨.ok (.ofVulkan raw), [], returned.2⟩
  | .error code =>
    let failure := Note.backendFailure source s!"{call}: {code.text}"
    ⟨.error failure.2, [failure.1], returned.2⟩

/-- Create a library anew. -/
def createLibrary (driver : Driver σ) (cache : UInt64) (info : GraphicsInfo) (state : σ) :
    Reply σ (Except Fault PipelineHandle) :=
  match entryNames info.stages with
  | .error fault => ⟨.error fault, [], state⟩
  | .ok names =>
    let reply : Reply σ (Except Fault PipelineHandle) :=
      creation "vkCreateGraphicsPipelines failed for pipeline library"
        (driver.createGraphicsPipelines cache (.ofInfo info names) state)
    match reply.value with
    | .error _ => reply
    | .ok library =>
      { reply with
        notes := [⟨.debug, source,
          s!"Re-created pipeline library {library.prefixedHex} with instrumented stages"⟩] }

/-- The device behind a driver. `cache` is the pipeline cache for libraries that are created anew;
zero is none. -/
def device (driver : Driver σ) (cache : UInt64) : Device σ :=
  { createSetLayout := fun bindings state ↦
      creation "vkCreateDescriptorSetLayout failed"
        (driver.createDescriptorSetLayout (bindings.map LayoutBinding.ofBinding) state)
    createPipelineLayout := fun layouts state ↦
      creation "vkCreatePipelineLayout failed"
        (driver.createPipelineLayout (layouts.map Handle.toVulkan) state)
    createModule := fun code state ↦
      creation "vkCreateShaderModule failed" (driver.createShaderModule code state)
    createLibrary := createLibrary driver cache
    destroySetLayout := fun layout state ↦
      ⟨(), [], driver.destroyDescriptorSetLayout layout.toVulkan state⟩
    destroyPipelineLayout := fun layout state ↦
      ⟨(), [], driver.destroyPipelineLayout layout.toVulkan state⟩
    destroyModule := fun module state ↦
      ⟨(), [], driver.destroyShaderModule module.toVulkan state⟩
    destroyPipeline := fun pipeline state ↦
      ⟨(), [], driver.destroyPipeline pipeline.toVulkan state⟩ }

end ShaderGuard.Vulkan
