import ShaderGuard.Instrumentor.Shaders

/-!
Pipelines before their creation.

Each stage of a pipeline is instrumented on its own: its module is replaced by a new one with the
instrumented code, or the code in it is. A library with stages is created anew with what came of
them, and the new one is linked in place of the application's. Whatever fails leaves the stage or
the library as the application gave it. The stages of the libraries come first, in the order of the
libraries, then the pipeline's own.
-/

set_option autoImplicit false

namespace ShaderGuard.Instrumentor

variable {P : Platform}

/-- Whether the application has asked for a stage to be instrumented, or need not ask. -/
def isSelected (s : Instrumentor P) (stage : ShaderStage) : Bool :=
  if s.settings.selectInstrumentedShaders then
    match stage.inlined with
    | some inlined =>
      if stage.module.isNull then inlined.selected else s.selectedModules.contains stage.module
    | none => s.selectedModules.contains stage.module
  else true

/-- On whose behalf a stage is instrumented. -/
structure StageSite where
  /-- The library that the stage belongs to. -/
  library : Option PipelineHandle
  /-- Whether the layout of the pipeline has a bindless set. -/
  bindless : Bool
  /-- The pipeline in the application's call. -/
  location : String
  deriving DecidableEq

/-- What became of a stage. -/
structure StageOutcome where
  stage : ShaderStage
  record : StageRecord
  /-- The module created for it, if any. -/
  modules : List ModuleHandle
  deriving DecidableEq

/-- A stage that stays as it is. -/
def StageOutcome.untouched (site : StageSite) (stage : ShaderStage) : StageOutcome :=
  { stage
    record :=
      { shaderId := none
        inlined := false
        module := stage.module
        code := stage.code
        library := site.library }
    modules := [] }

/-- Put instrumented code into a stage: into a new module if the stage has a module, and otherwise
in place of the code in it. `index` is the place of the stage among those of its pipeline or
library. -/
def placeCode (site : StageSite) (s : Instrumentor P) (stage : ShaderStage) (index : Nat)
    (made : InstrumentedCode) : StageOutcome × Instrumentor P :=
  let untouched := StageOutcome.untouched site stage
  if !stage.module.isNull then
    let created := s.createModule made.code
    match created.1 with
    | .ok module =>
      ({ stage := stage.withModule module
         record := { untouched.record with shaderId := some made.id }
         modules := [module] }, created.2)
    | .error _ =>
      (untouched, created.2.internalError site.location
        "Unable to replace non-instrumented shader with instrumented one.")
  else if stage.inlined.isSome then
    ({ stage := stage.withCode made.code
       record := { untouched.record with shaderId := some made.id, inlined := true }
       modules := [] }, s)
  else
    (untouched, s.record (.plain .error source
      s!"{site.location}: stage {index} has neither a shader module nor inlined code"))

/-- Instrument one stage. -/
def instrumentStage (site : StageSite) (s : Instrumentor P) (indexed : ShaderStage × Nat) :
    StageOutcome × Instrumentor P :=
  let stage := indexed.1
  match stage.code with
  | none => (.untouched site stage, s)
  | some code =>
    if s.isSelected stage then
      let attempt := s.instrumentCode code site.bindless site.location
      match attempt.1 with
      | none => (.untouched site stage, attempt.2)
      | some made => placeCode site attempt.2 stage indexed.2 made
    else (.untouched site stage, s)

/-- Instrument stages in order. -/
def instrumentStages (site : StageSite) (s : Instrumentor P) (stages : List ShaderStage) :
    List StageOutcome × Instrumentor P :=
  thread (instrumentStage site) s stages.zipIdx

/-- The modules created for some stages. -/
def createdModules (outcomes : List StageOutcome) : List ModuleHandle :=
  outcomes.flatMap StageOutcome.modules

/-- The state in which the libraries of one pipeline are linked: what has been created for the
pipeline so far, and the whole state. -/
structure LinkState (P : Platform) where
  objects : PipelineObjects
  state : Instrumentor P

/-- What became of a library. -/
structure LibraryOutcome where
  library : GraphicsLibrary
  records : List StageRecord

/-- Instrument the stages of a library and create it anew. A library without stages stays as it
is. -/
def relinkLibrary (site : StageSite) (link : LinkState P) (library : GraphicsLibrary) :
    LibraryOutcome × LinkState P :=
  if library.info.stages.isEmpty then (⟨library, []⟩, link)
  else
    let staged := instrumentStages { site with library := some library.handle } link.state
      library.info.stages
    let info := { library.info with stages := staged.1.map StageOutcome.stage }
    let records := staged.1.map StageOutcome.record
    let objects := link.objects.addModules (createdModules staged.1)
    let created := staged.2.createLibrary info
    match created.1 with
    | .ok handle =>
      (⟨⟨handle, info⟩, records⟩,
        ⟨objects.setLibrary library.hasFragmentStage handle, created.2⟩)
    | .error _ =>
      (⟨library, records⟩,
        ⟨objects, created.2.internalError site.location
          "Unable to re-create pipeline library with instrumented shaders."⟩)

/-- Instrument a pipeline. -/
def instrumentPipeline (location : String) (s : Instrumentor P) (info : PipelineInfo) :
    PipelineDraft × Instrumentor P :=
  let site : StageSite := ⟨none, info.isBindless, location⟩
  let linked := thread (relinkLibrary site) ⟨{}, s⟩ info.libraries
  let staged := instrumentStages site linked.2.state info.stages
  let records :=
    linked.1.flatMap LibraryOutcome.records ++ staged.1.map StageOutcome.record
  let draft : PipelineDraft :=
    { info := (info.withLibraries (linked.1.map LibraryOutcome.library)).withStages
        (staged.1.map StageOutcome.stage)
      records
      objects := linked.2.objects.addModules (createdModules staged.1) }
  let count := (records.filter fun record ↦ record.shaderId.isSome).length
  (draft, staged.2.record (.plain .debug source
    s!"{location}: instrumented {count} of {records.length} stages"))

/-- Whether a pipeline is to be instrumented. It needs stages, of its own or of its libraries. A
library is instrumented when it is linked. Neither its shaders nor its layout may use the reserved
slot. -/
def isEligible (info : PipelineInfo) (slot : UInt32) : Bool :=
  info.totalStageCount != 0 && !info.flags.contains CreationFlags.library &&
    !info.activeSlots.contains slot &&
    !info.layout.any fun layout ↦ slot.toNat < layout.setLayouts.length

/-- The place of an object in a call that creates several. -/
def elementOf (location : String) (index : Nat) : String :=
  s!"{location}::pCreateInfos[{index}]"

/-- Prepare one pipeline of a call. -/
def preparePipeline (slot : UInt32) (location : String) (s : Instrumentor P)
    (indexed : PipelineInfo × Nat) : PipelineDraft × Instrumentor P :=
  if isEligible indexed.1 slot then
    instrumentPipeline (elementOf location indexed.2) s indexed.1
  else ({ info := indexed.1 }, s)

/-- Before pipelines are created: what to create in their place. `location` is the application's
call. -/
def preparePipelines (s : Instrumentor P) (infos : List PipelineInfo) (location : String) :
    List PipelineDraft × Instrumentor P :=
  match s.reservedSlot with
  | none => (infos.map fun info ↦ { info }, s)
  | some slot =>
    if s.isInstrumenting then thread (preparePipeline slot location) s infos.zipIdx
    else (infos.map fun info ↦ { info }, s)

/-- There is one draft per pipeline. -/
theorem length_preparePipelines (s : Instrumentor P) (infos : List PipelineInfo)
    (location : String) : (s.preparePipelines infos location).1.length = infos.length := by
  simp only [preparePipelines]
  split
  · simp
  · split <;> simp

end ShaderGuard.Instrumentor
