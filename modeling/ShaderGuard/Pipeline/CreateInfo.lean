import ShaderGuard.Bytecode.Instruction
import ShaderGuard.Flags
import ShaderGuard.Table

/-!
What an application says when it creates pipelines and shader objects.

A pipeline has stages, a layout and the descriptor sets that its shaders use, whatever its shape. A
graphics pipeline may be linked from libraries, each of which is a handle together with what it was
created from; these may again be linked from libraries. `PipelineInfo.stages` and
`PipelineInfo.withStages` are the view of the stages that all shapes share.
-/

set_option autoImplicit false

namespace ShaderGuard

/-- The points of a command buffer to which pipelines are bound. -/
inductive BindPoint where
  | graphics
  | compute
  | rayTracing
  deriving DecidableEq

/-- All bind points. -/
def BindPoint.all : List BindPoint := [.graphics, .compute, .rayTracing]

/-- The name of a bind point. -/
def BindPoint.name : BindPoint → String
  | .graphics => "graphics"
  | .compute => "compute"
  | .rayTracing => "ray_tracing"

/-- Code that stands in a stage itself. -/
structure InlineCode where
  code : Code
  /-- Whether the application asks for instrumentation. -/
  selected : Bool
  deriving DecidableEq

/-- One shader stage of a pipeline. -/
structure ShaderStage where
  stages : ShaderStages
  /-- The module that holds the code; null where the code stands in the stage. -/
  module : ModuleHandle
  /-- The code as far as it is known; a stage may be given by an identifier alone. -/
  code : Option Code
  inlined : Option InlineCode
  entryPoint : String
  deriving DecidableEq

namespace ShaderStage

/-- The stage with another module. -/
def withModule (stage : ShaderStage) (module : ModuleHandle) : ShaderStage :=
  { stage with module }

/-- The stage with other code in it, if there is code in it. -/
def withCode (stage : ShaderStage) (code : Code) : ShaderStage :=
  { stage with inlined := stage.inlined.map fun inlined ↦ { inlined with code } }

theorem withCode_of_inlined {stage : ShaderStage} {inlined : InlineCode}
    (h : stage.inlined = some inlined) (code : Code) :
    stage.withCode code = { stage with inlined := some { inlined with code } } := by
  rw [withCode, h, Option.map_some]

end ShaderStage

/-- A descriptor set layout, as far as it is known. -/
structure SetLayout where
  handle : SetLayoutHandle
  /-- Whether descriptors may be bound late, partly, or in a variable number. -/
  bindless : Bool
  deriving DecidableEq

/-- A pipeline layout as the application declared it. -/
structure PipelineLayout where
  handle : PipelineLayoutHandle
  setLayouts : List SetLayout
  deriving DecidableEq

/-- Whether any of some set layouts is bindless. -/
def SetLayout.anyBindless (layouts : List SetLayout) : Bool := layouts.any SetLayout.bindless

/-- The numbers of descriptor sets. -/
abbrev SlotSet := KeySet UInt32

/-- A library that is linked into a pipeline, with what it was created from. -/
structure LinkedLibrary (Info : Type) where
  handle : PipelineHandle
  info : Info

/-- A graphics pipeline. -/
structure GraphicsInfo where
  flags : CreationFlags
  stages : List ShaderStage
  layout : Option PipelineLayout
  /-- The descriptor sets that the shaders use. -/
  activeSlots : SlotSet
  libraries : List (LinkedLibrary GraphicsInfo)

/-- A compute pipeline. -/
structure ComputeInfo where
  flags : CreationFlags
  stage : ShaderStage
  layout : Option PipelineLayout
  /-- The descriptor sets that the shader uses. -/
  activeSlots : SlotSet

/-- A shader group of a ray tracing pipeline: the indexes of its stages. -/
inductive ShaderGroup where
  | general (shader : UInt32)
  | triangles (closestHit anyHit : Option UInt32)
  | procedural (closestHit anyHit : Option UInt32) (intersection : UInt32)
  deriving DecidableEq

/-- A ray tracing pipeline. -/
structure RayTracingInfo where
  flags : CreationFlags
  stages : List ShaderStage
  groups : List ShaderGroup
  maxRecursionDepth : UInt32
  layout : Option PipelineLayout
  /-- The descriptor sets that the shaders use. -/
  activeSlots : SlotSet

/-- A library of graphics stages. -/
abbrev GraphicsLibrary := LinkedLibrary GraphicsInfo

/-- Whether any stage of a list is a fragment stage. -/
def anyFragment (stages : List ShaderStage) : Bool :=
  stages.any fun stage ↦ stage.stages.contains ShaderStages.fragment

/-- Whether a library has a fragment stage. -/
def LinkedLibrary.hasFragmentStage (library : GraphicsLibrary) : Bool :=
  anyFragment library.info.stages

/-- A pipeline of any shape. -/
inductive PipelineInfo where
  | graphics (info : GraphicsInfo)
  | compute (info : ComputeInfo)
  | rayTracing (info : RayTracingInfo)

namespace PipelineInfo

/-- Where a pipeline is bound. -/
def bindPoint : PipelineInfo → BindPoint
  | .graphics _ => .graphics
  | .compute _ => .compute
  | .rayTracing _ => .rayTracing

/-- The flags of the creation. -/
def flags : PipelineInfo → CreationFlags
  | .graphics info => info.flags
  | .compute info => info.flags
  | .rayTracing info => info.flags

/-- The declared layout. -/
def layout : PipelineInfo → Option PipelineLayout
  | .graphics info => info.layout
  | .compute info => info.layout
  | .rayTracing info => info.layout

/-- The descriptor sets that the shaders use. -/
def activeSlots : PipelineInfo → SlotSet
  | .graphics info => info.activeSlots
  | .compute info => info.activeSlots
  | .rayTracing info => info.activeSlots

/-- The pipeline's own stages. -/
def stages : PipelineInfo → List ShaderStage
  | .graphics info => info.stages
  | .compute info => [info.stage]
  | .rayTracing info => info.stages

/-- The pipeline with other stages in the place of its own. The one stage of a compute pipeline is
replaced by the first of them. -/
def withStages : PipelineInfo → List ShaderStage → PipelineInfo
  | .graphics info, stages => .graphics { info with stages }
  | .compute info, stages => .compute { info with stage := stages.headD info.stage }
  | .rayTracing info, stages => .rayTracing { info with stages }

/-- The libraries that are linked into the pipeline. -/
def libraries : PipelineInfo → List GraphicsLibrary
  | .graphics info => info.libraries
  | _ => []

/-- The pipeline with other libraries linked into it, if its shape has libraries. -/
def withLibraries : PipelineInfo → List GraphicsLibrary → PipelineInfo
  | .graphics info, libraries => .graphics { info with libraries }
  | info, _ => info

/-- Whether the pipeline's shape has libraries. -/
def mayLink (info : PipelineInfo) : Bool := info.bindPoint = .graphics

/-- The number of the pipeline's own stages and of those of its libraries. -/
def totalStageCount (info : PipelineInfo) : Nat :=
  info.libraries.foldl (fun count library ↦ count + library.info.stages.length) info.stages.length

/-- Whether the layout has a bindless set. -/
def isBindless (info : PipelineInfo) : Bool :=
  info.layout.any fun layout ↦ SetLayout.anyBindless layout.setLayouts

theorem isBindless_iff (info : PipelineInfo) : info.isBindless = true ↔
    ∃ layout, info.layout = some layout ∧ ∃ set ∈ layout.setLayouts, set.bindless = true := by
  rw [isBindless, Option.any_eq_true]
  simp only [SetLayout.anyBindless, List.any_eq_true]

/-- The pipeline with one of its own stages changed. The one stage of a compute pipeline is meant
whatever the index. -/
def modifyStage (info : PipelineInfo) (index : Nat) (change : ShaderStage → ShaderStage) :
    PipelineInfo :=
  match info with
  | .compute info => .compute { info with stage := change info.stage }
  | info => info.withStages (info.stages.modify index change)

@[simp] theorem stages_withStages (info : PipelineInfo) (stages : List ShaderStage)
    (h : stages.length = info.stages.length) : (info.withStages stages).stages = stages := by
  cases info with
  | graphics info => rfl
  | compute info =>
    match stages, h with
    | [stage], _ => rfl
  | rayTracing info => rfl

@[simp] theorem libraries_withStages (info : PipelineInfo) (stages : List ShaderStage) :
    (info.withStages stages).libraries = info.libraries := by
  cases info <;> rfl

@[simp] theorem stages_withLibraries (info : PipelineInfo) (libraries : List GraphicsLibrary) :
    (info.withLibraries libraries).stages = info.stages := by
  cases info <;> rfl

end PipelineInfo

/-- A shader that is bound without a pipeline. -/
structure ShaderObjectInfo where
  stages : ShaderStages
  code : Code
  setLayouts : List SetLayout
  /-- Whether the application asks for instrumentation. -/
  selected : Bool
  entryPoint : String
  deriving DecidableEq

/-- Whether any set layout of a shader object is bindless. -/
def ShaderObjectInfo.isBindless (info : ShaderObjectInfo) : Bool :=
  SetLayout.anyBindless info.setLayouts

theorem ShaderObjectInfo.isBindless_iff (info : ShaderObjectInfo) : info.isBindless = true ↔
    ∃ set ∈ info.setLayouts, set.bindless = true := by
  rw [isBindless, SetLayout.anyBindless, List.any_eq_true]

end ShaderGuard
