import ShaderGuard.Proofs.Stages

/-!
# What is forwarded to the driver

The host creates what the drafts say in place of what the application asked for.
`PipelineInfo.Forwarded` says in what a forwarded pipeline may differ from the application's: in the
module of a stage that has one, in the code in a stage that has none, and in libraries with stages,
each of which may be replaced by one with another handle whose stages differ in these ways. Nothing
else is changed, and nothing changes its place.

A pipeline is processed if shaders are being rewritten on a device that is set up and the pipeline
is eligible (`Instrumentor.Processes`). Its draft then repeats its stages, those of its libraries
first, and leaves every stage alone that gets no identifier (`PipelineDraft.Repeats`). Any other
pipeline is forwarded as it is, with no records. `forwarded_preparePipelines` says so of whole
calls, in whatever state they are made.
-/

set_option autoImplicit false

namespace ShaderGuard

/-! ### Changes to create infos -/

/-- In what a stage may be changed: in its module, if it has one, and otherwise in the code that
stands in it. -/
inductive ShaderStage.Forwarded (stage : ShaderStage) : ShaderStage → Prop where
  | same : Forwarded stage stage
  | module (module : ModuleHandle) (hgiven : stage.module.isNull = false) :
      Forwarded stage { stage with module }
  | code (words : Code) (inlined : InlineCode) (hgiven : stage.module.isNull = true)
      (hinlined : stage.inlined = some inlined) :
      Forwarded stage { stage with inlined := some { inlined with code := words } }

/-- In what a library may be changed: if it has stages, it may be replaced by one with another
handle, in which stages are changed. -/
inductive LinkedLibrary.Forwarded (library : GraphicsLibrary) : GraphicsLibrary → Prop where
  | same : Forwarded library library
  | relinked (handle : PipelineHandle) {stages : List ShaderStage}
      (hsome : library.info.stages ≠ [])
      (hstages : List.Forall₂ ShaderStage.Forwarded library.info.stages stages) :
      Forwarded library ⟨handle, { library.info with stages }⟩

/-- In what a pipeline may be changed: in its stages and in its libraries, one by one. -/
inductive PipelineInfo.Forwarded : PipelineInfo → PipelineInfo → Prop where
  | graphics (info : GraphicsInfo) {stages : List ShaderStage} {libraries : List GraphicsLibrary}
      (hstages : List.Forall₂ ShaderStage.Forwarded info.stages stages)
      (hlibraries : List.Forall₂ LinkedLibrary.Forwarded info.libraries libraries) :
      Forwarded (.graphics info) (.graphics { info with stages, libraries })
  | compute (info : ComputeInfo) {stage : ShaderStage} (hstage : info.stage.Forwarded stage) :
      Forwarded (.compute info) (.compute { info with stage })
  | rayTracing (info : RayTracingInfo) {stages : List ShaderStage}
      (hstages : List.Forall₂ ShaderStage.Forwarded info.stages stages) :
      Forwarded (.rayTracing info) (.rayTracing { info with stages })

namespace PipelineInfo

/-- A pipeline may be forwarded with any changes to its stages and libraries, whatever its
shape. -/
theorem forwarded_withStages (info : PipelineInfo) {stages : List ShaderStage}
    {libraries : List GraphicsLibrary}
    (hstages : List.Forall₂ ShaderStage.Forwarded info.stages stages)
    (hlibraries : List.Forall₂ LinkedLibrary.Forwarded info.libraries libraries) :
    info.Forwarded ((info.withLibraries libraries).withStages stages) := by
  cases info with
  | graphics info => exact .graphics info hstages hlibraries
  | compute info =>
    obtain ⟨stage, rest, hstage, hrest, rfl⟩ := List.forall₂_cons_left_iff.mp hstages
    exact .compute info hstage
  | rayTracing info => exact .rayTracing info hstages

/-- With its own stages a pipeline is as it was. -/
@[simp] theorem withStages_self (info : PipelineInfo) : info.withStages info.stages = info := by
  cases info with
  | graphics info =>
    cases info
    rfl
  | compute info => rfl
  | rayTracing info => rfl

/-- With its own libraries a pipeline is as it was. -/
@[simp] theorem withLibraries_self (info : PipelineInfo) :
    info.withLibraries info.libraries = info := by
  cases info with
  | graphics info =>
    cases info
    rfl
  | compute info => rfl
  | rayTracing info => rfl

theorem Forwarded.refl (info : PipelineInfo) : info.Forwarded info := by
  have hsame := info.forwarded_withStages
    (List.forall₂_same.mpr fun stage _ ↦ ShaderStage.Forwarded.same)
    (List.forall₂_same.mpr fun library _ ↦ LinkedLibrary.Forwarded.same)
  rwa [withLibraries_self, withStages_self] at hsame

end PipelineInfo

/-! ### What the records repeat -/

/-- That the record of a stage repeats what the application gave, and that the stage is forwarded
as it is if it gets no identifier. -/
structure StageRepeated (owned : Option PipelineHandle × ShaderStage)
    (done : StageRecord × ShaderStage) : Prop where
  library : done.1.library = owned.1
  module : done.1.module = owned.2.module
  code : done.1.code = owned.2.code
  untouched : done.1.shaderId = none → done.2 = owned.2

/-- That the records of a draft and the stages that it forwards are those of a pipeline, one by
one, the stages of the libraries first. -/
def PipelineDraft.Repeats (draft : PipelineDraft) (info : PipelineInfo) : Prop :=
  ∃ done : List (StageRecord × ShaderStage), draft.records = done.map Prod.fst ∧
    draft.info.allStages.map Prod.snd = done.map Prod.snd ∧
    List.Forall₂ StageRepeated info.allStages done

variable {P : Platform}

namespace Instrumentor

/-! ### Stages, libraries and pipelines -/

theorem forwarded_placeCode (site : StageSite) (s : Instrumentor P) (stage : ShaderStage)
    (index : Nat) (made : InstrumentedCode) :
    stage.Forwarded (placeCode site s stage index made).1.stage := by
  simp only [placeCode]
  cases hgiven : stage.module.isNull with
  | false =>
    cases (s.createModule made.code).1 with
    | ok module => exact .module module hgiven
    | error fault => exact .same
  | true =>
    by_cases hinlined : stage.inlined.isSome = true
    · simp only [Bool.not_true, Bool.false_eq_true, if_false, if_pos hinlined]
      obtain ⟨inlined, hsome⟩ := Option.isSome_iff_exists.mp hinlined
      rw [ShaderStage.withCode_of_inlined hsome]
      exact .code made.code inlined hgiven hsome
    · simp only [Bool.not_true, Bool.false_eq_true, if_false, if_neg hinlined]
      exact .same

theorem forwarded_instrumentStage (site : StageSite) (s : Instrumentor P)
    (indexed : ShaderStage × Nat) :
    indexed.1.Forwarded (instrumentStage site s indexed).1.stage := by
  simp only [instrumentStage]
  cases indexed.1.code with
  | none => exact .same
  | some code =>
    by_cases hselected : s.isSelected indexed.1 = true
    · simp only [if_pos hselected]
      cases (s.instrumentCode code site.bindless site.location).1 with
      | none => exact .same
      | some made => exact forwarded_placeCode site _ indexed.1 indexed.2 made
    · simp only [if_neg hselected]
      exact .same

theorem forwarded_instrumentStages (site : StageSite) (s : Instrumentor P)
    (stages : List ShaderStage) :
    List.Forall₂ ShaderStage.Forwarded stages
      ((instrumentStages site s stages).1.map StageOutcome.stage) := by
  rw [List.forall₂_map_right_iff]
  exact forall₂_of_zipIdx (forall₂_thread_of_step (forwarded_instrumentStage site) s stages.zipIdx)

theorem forwarded_relinkLibrary (site : StageSite) (link : LinkState P)
    (library : GraphicsLibrary) :
    library.Forwarded (relinkLibrary site link library).1.library := by
  simp only [relinkLibrary]
  by_cases hempty : library.info.stages.isEmpty = true
  · rw [if_pos hempty]
    exact .same
  · rw [if_neg hempty]
    have hsome : library.info.stages ≠ [] := fun hnil ↦ hempty (List.isEmpty_iff.mpr hnil)
    split
    · exact .relinked _ hsome (forwarded_instrumentStages _ link.state library.info.stages)
    · exact .same

theorem forwarded_preparePipeline (slot : UInt32) (location : String) (s : Instrumentor P)
    (indexed : PipelineInfo × Nat) :
    indexed.1.Forwarded (preparePipeline slot location s indexed).1.info := by
  simp only [preparePipeline]
  by_cases heligible : isEligible indexed.1 slot = true
  · simp only [if_pos heligible, instrumentPipeline]
    refine PipelineInfo.forwarded_withStages _ (forwarded_instrumentStages _ _ _) ?_
    rw [List.forall₂_map_right_iff]
    exact forall₂_thread_of_step (forwarded_relinkLibrary _) _ indexed.1.libraries
  · rw [if_neg heligible]
    exact .refl indexed.1

/-- A pipeline that is to be instrumented is repeated by its draft. -/
theorem repeats_preparePipeline (slot : UInt32) (location : String) (s : Instrumentor P)
    (indexed : PipelineInfo × Nat) (heligible : isEligible indexed.1 slot = true) :
    (preparePipeline slot location s indexed).1.Repeats indexed.1 := by
  obtain ⟨done, hrecords, hforwarded, hfate⟩ :=
    stagesFate_instrumentPipeline knowsModules_any slot location s indexed heligible
  refine ⟨done, hrecords, hforwarded, hfate.imp fun owned one hone ↦ ?_⟩
  exact ⟨hone.library, hone.module, hone.code, hone.untouched⟩

/-! ### Whole calls -/

/-- In every state there is one draft for each pipeline of a call, in order. It forwards the
pipeline with changes to modules, to code and to libraries alone. If the pipeline is processed, the
draft has one record for each stage, which repeats what the application gave, and a stage whose
record has no identifier is forwarded as it is. Any other pipeline is forwarded as it is, with no
records and nothing created for it. -/
theorem forwarded_preparePipelines (s : Instrumentor P) (infos : List PipelineInfo)
    (location : String) :
    List.Forall₂
      (fun info draft ↦ info.Forwarded draft.info ∧
        (s.Processes info → draft.Repeats info) ∧ (¬ s.Processes info → draft = { info }))
      infos (s.preparePipelines infos location).1 := by
  rcases s.preparePipelines_cases infos location with
    ⟨hkept, -, hnone⟩ | ⟨slot, hprepared, -, hprocesses⟩
  · rw [hkept, List.forall₂_map_right_iff, List.forall₂_same]
    intro info _
    exact ⟨.refl info, fun h ↦ absurd h (hnone info), fun _ ↦ rfl⟩
  · simp only [hprepared, hprocesses]
    refine forall₂_of_zipIdx (forall₂_thread_of_step (fun t indexed ↦ ?_) s infos.zipIdx)
    refine ⟨forwarded_preparePipeline slot location t indexed,
      repeats_preparePipeline slot location t indexed, fun hnot ↦ ?_⟩
    rw [preparePipeline, if_neg hnot]

end Instrumentor

end ShaderGuard
