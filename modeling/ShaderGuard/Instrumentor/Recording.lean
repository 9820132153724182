import ShaderGuard.Instrumentor.State

/-!
Pipelines after their creation.

Once a pipeline exists its instrumented stages are put into the registry, and what the library has
created for it is kept until it is destroyed. A null handle says that a pipeline could not be
created; what was made for it is destroyed. Where the driver has deferred the creation, all of this
happens when the operation is complete.
-/

set_option autoImplicit false

namespace ShaderGuard

open Bytecode (ShaderId)

/-- The entry of a stage in the registry, if the stage is instrumented. It belongs to the
application's library that the stage came from, and otherwise to the pipeline. -/
def StageRecord.entry? (pipeline : PipelineHandle) (record : StageRecord) :
    Option (ShaderId × InstrumentedShader) :=
  match record.shaderId, record.code with
  | some id, some code =>
    some (id,
      { pipeline := record.library.getD pipeline
        module :=
          if record.module.isNull && record.inlined then Handle.inlinedStage else record.module
        object := .null
        code })
  | _, _ => none

/-- What the driver says of the creation of pipelines. -/
inductive CreationResult where
  | success
  /-- The creation goes on, on a deferred operation. -/
  | deferred
  | failed
  deriving DecidableEq

namespace Instrumentor

variable {P : Platform}

/-- Destroy what was created for a pipeline: its modules, then its libraries. -/
def release (s : Instrumentor P) (objects : PipelineObjects) : Instrumentor P :=
  objects.libraries.foldl destroyLibrary (objects.modules.foldl destroyModule s)

/-- Put entries into the registry, in order. -/
def register (s : Instrumentor P) (entries : List (ShaderId × InstrumentedShader)) :
    Instrumentor P :=
  { s with
    registry := entries.foldl (fun registry entry ↦ registry.insert entry.1 entry.2) s.registry }

/-- Record one pipeline. Its stages enter the registry if `registering` says so. -/
def recordPipeline (registering : Bool) (s : Instrumentor P) (draft : PipelineDraft)
    (pipeline : PipelineHandle) : Instrumentor P :=
  if pipeline.isNull then s.release draft.objects
  else
    let entries := if registering then draft.records.filterMap (StageRecord.entry? pipeline) else []
    let s := s.register entries
    let objects :=
      { draft.objects with instrumented := draft.objects.instrumented || !entries.isEmpty }
    if objects.isEmpty then s
    else { s with pipelines := s.pipelines.insert pipeline objects }

/-- Record pipelines in order. One for which there is no handle could not be created. -/
def recordAll (registering : Bool) (s : Instrumentor P) :
    List PipelineDraft → List PipelineHandle → Instrumentor P
  | [], _ => s
  | draft :: rest, pipelines =>
    recordAll registering (recordPipeline registering s draft (pipelines.headD .null)) rest
      pipelines.tail

theorem recordAll_append (registering : Bool) (s : Instrumentor P)
    (first second : List PipelineDraft) (pipelines more : List PipelineHandle)
    (h : pipelines.length = first.length) :
    recordAll registering s (first ++ second) (pipelines ++ more) =
      recordAll registering (recordAll registering s first pipelines) second more := by
  induction first generalizing s pipelines with
  | nil =>
    obtain rfl := List.eq_nil_of_length_eq_zero h
    rfl
  | cons draft rest ih =>
    match pipelines, h with
    | pipeline :: tail, h =>
      simp only [List.cons_append, recordAll, List.headD_cons, List.tail_cons]
      exact ih _ tail (by simpa using h)

/-- After pipelines were created. -/
def pipelinesCreated (s : Instrumentor P) (drafts : List PipelineDraft)
    (pipelines : List PipelineHandle) : Instrumentor P :=
  recordAll s.isInstrumenting s drafts pipelines

/-- Track a deferred operation. -/
def trackDeferred (s : Instrumentor P) (operation : DeferredHandle) : Instrumentor P :=
  { s with deferred := DeferredQueue.seed s.deferred operation }

/-- Let drafts wait for a deferred operation. If nobody tracks the operation they could never be
recorded, and what was made for them is destroyed. Whether their stages will enter the registry is
decided now. -/
def deferPipelines (s : Instrumentor P) (drafts : List PipelineDraft)
    (operation : DeferredHandle) : Instrumentor P :=
  match DeferredQueue.append s.deferred operation ⟨drafts, s.isInstrumenting⟩ with
  | .ok deferred => { s with deferred }
  | .error fault =>
    drafts.foldl (fun s draft ↦ s.release draft.objects)
      (s.record (.plain .error source s!"vkCreateRayTracingPipelinesKHR: {fault.message}"))

/-- After ray tracing pipelines were created, or their creation was deferred. -/
def rayTracingPipelinesCreated (s : Instrumentor P) (drafts : List PipelineDraft)
    (operation : DeferredHandle) (result : CreationResult) (pipelines : List PipelineHandle) :
    Instrumentor P :=
  if operation.isNull || result != .deferred then s.pipelinesCreated drafts pipelines
  else s.deferPipelines drafts operation

/-- The entry that drafts which wait for an untracked operation are reported with. -/
def untrackedEntry (operation : DeferredHandle) : Entry :=
  .plain .error source (s!"vkCreateRayTracingPipelinesKHR: " ++
    (Fault.deferredOperationNotTracked operation).message)

/-- Drafts of ray tracing pipelines are recorded, or they wait for their operation, or nobody tracks
it and they are released. -/
theorem rayTracingPipelinesCreated_cases (s : Instrumentor P) (drafts : List PipelineDraft)
    (operation : DeferredHandle) (result : CreationResult) (pipelines : List PipelineHandle) :
    let after := s.rayTracingPipelinesCreated drafts operation result pipelines
    let now := operation.isNull || result != .deferred
    (now = true ∧ after = s.pipelinesCreated drafts pipelines) ∨
      (now = false ∧ s.deferred.isPending operation = true ∧
        ∃ deferred, DeferredQueue.append s.deferred operation ⟨drafts, s.isInstrumenting⟩ =
            .ok deferred ∧ after = { s with deferred }) ∨
      (now = false ∧ s.deferred.isPending operation = false ∧
        after = drafts.foldl (fun s draft ↦ s.release draft.objects)
          (s.record (untrackedEntry operation))) := by
  unfold rayTracingPipelinesCreated
  cases hnow : (operation.isNull || result != .deferred) with
  | true => exact Or.inl ⟨rfl, rfl⟩
  | false =>
    rw [if_neg Bool.false_ne_true, deferPipelines]
    cases happend : DeferredQueue.append s.deferred operation ⟨drafts, s.isInstrumenting⟩ with
    | ok deferred =>
      exact Or.inr (Or.inl ⟨rfl, DeferredQueue.isPending_of_append_ok happend, deferred, rfl, rfl⟩)
    | error fault =>
      obtain ⟨hpending, rfl⟩ := DeferredQueue.eq_of_append_error happend
      exact Or.inr (Or.inr ⟨rfl, hpending, rfl⟩)

/-- A deferred operation is complete: record what has waited for it, and say how many recordings
that were. -/
def completeDeferred (s : Instrumentor P) (operation : DeferredHandle)
    (pipelines : List PipelineHandle) : Nat × Instrumentor P :=
  let taken := DeferredQueue.pop s.deferred operation
  let recordings := taken.1.getD []
  (recordings.length,
    recordings.foldl (fun s recording ↦ recordAll recording.register s recording.drafts pipelines)
      { s with deferred := taken.2 })

/-- Before the application destroys a pipeline. -/
def pipelineDestroyed (s : Instrumentor P) (pipeline : PipelineHandle) : Instrumentor P :=
  let forgotten : Instrumentor P :=
    { s with
      registry := (s.registry.erasePipeline pipeline).2
      pipelines := s.pipelines.erase pipeline }
  match s.pipelines.get? pipeline with
  | none => forgotten
  | some objects => forgotten.release objects

end Instrumentor

end ShaderGuard
