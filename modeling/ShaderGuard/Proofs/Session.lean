import ShaderGuard.Instrumentor.Commands
import ShaderGuard.Instrumentor.Setup
import ShaderGuard.Instrumentor.ShaderObjects
import ShaderGuard.Proofs.Notes

/-!
# Runs of the hooks

A host calls the hooks of one instrumentation in any order (`Hook`). A creation is prepared by one
hook and finished by a later one; in between, its drafts are on their way to the driver. A session
is the state of the instrumentation together with these drafts (`Session`). Drafts are handed over
when their creation is finished, so no creation is finished twice, and any number of creations may
be under way at a time.

A run is a list of hooks, oldest first (`Session.run`). What is stated of a run from
`Session.start` is stated of every state that the hooks can reach.
-/

set_option autoImplicit false

namespace ShaderGuard

/-- A call of a hook. Creations that are under way are named by their place among them. -/
inductive Hook where
  | setUpDevice (capabilities : Capabilities)
  | tearDownDevice
  | advertise (limit : UInt32)
  | patchPipelineLayout (layouts : List SetLayoutHandle)
  | pipelineLayoutCreated (patched failed : Bool)
  | moduleCreated (module : ModuleHandle) (selected : Bool)
  | moduleDestroyed (module : ModuleHandle)
  | preparePipelines (infos : List PipelineInfo) (location : String)
  | pipelinesCreated (creation : Nat) (pipelines : List PipelineHandle)
  | rayTracingPipelinesCreated (creation : Nat) (operation : DeferredHandle)
      (result : CreationResult) (pipelines : List PipelineHandle)
  | trackDeferred (operation : DeferredHandle)
  | forgetDeferred (operation : DeferredHandle)
  | completeDeferred (operation : DeferredHandle) (pipelines : List PipelineHandle)
  | pipelineDestroyed (pipeline : PipelineHandle)
  | prepareShaderObjects (infos : List ShaderObjectInfo) (call : String)
  | shaderObjectsCreated (creation : Nat) (objects : List ShaderObjectHandle)
  | shaderObjectDestroyed (object : ShaderObjectHandle)
  | waitEvents (commandBuffer : CommandBufferHandle) (stages : SyncStages) (location : String)
  | message (violation : Violation) (names : ObjectNames)
  | internalError (location message : String)

/-- The state of an instrumentation, and the drafts of the creations that are under way. -/
structure Session (P : Platform) where
  state : Instrumentor P
  /-- The drafts of pipelines, one list for each creation, the latest last. -/
  pipelines : List (List PipelineDraft) := []
  /-- The drafts of shader objects, one list for each creation, the latest last. -/
  shaderObjects : List (List ShaderObjectDraft) := []

namespace Session

variable {P : Platform}

/-- The session before any hook: nothing is known but the settings. -/
def start (settings : Settings) (device : P.DeviceState) (tools : P.ToolState)
    (storage : P.StorageState) : Session P :=
  { state := { tools, storage, device, subsystem := { settings } } }

/-- Go on with another state. -/
def become (t : Session P) (s : Instrumentor P) : Session P := { t with state := s }

/-- Finish a creation of pipelines: its drafts are handed over. -/
def finishPipelines (t : Session P) (creation : Nat)
    (finish : List PipelineDraft → Instrumentor P) : Session P :=
  match t.pipelines[creation]? with
  | none => t
  | some drafts =>
    { t with state := finish drafts, pipelines := t.pipelines.eraseIdx creation }

/-- Finish a creation of shader objects: its drafts are handed over. -/
def finishShaderObjects (t : Session P) (creation : Nat)
    (finish : List ShaderObjectDraft → Instrumentor P) : Session P :=
  match t.shaderObjects[creation]? with
  | none => t
  | some drafts =>
    { t with state := finish drafts, shaderObjects := t.shaderObjects.eraseIdx creation }

/-- One hook. -/
def step (t : Session P) : Hook → Session P
  | .setUpDevice capabilities => t.become (t.state.setUpDevice capabilities).2
  | .tearDownDevice => t.become t.state.tearDownDevice
  | .advertise limit => t.become (t.state.advertise limit).2
  | .patchPipelineLayout layouts => t.become (t.state.patchPipelineLayout layouts).2
  | .pipelineLayoutCreated patched failed =>
    t.become (t.state.pipelineLayoutCreated patched failed)
  | .moduleCreated module selected => t.become (t.state.moduleCreated module selected)
  | .moduleDestroyed module => t.become (t.state.moduleDestroyed module)
  | .preparePipelines infos location =>
    let prepared := t.state.preparePipelines infos location
    { t with state := prepared.2, pipelines := t.pipelines ++ [prepared.1] }
  | .pipelinesCreated creation pipelines =>
    t.finishPipelines creation fun drafts ↦ t.state.pipelinesCreated drafts pipelines
  | .rayTracingPipelinesCreated creation operation result pipelines =>
    t.finishPipelines creation fun drafts ↦
      t.state.rayTracingPipelinesCreated drafts operation result pipelines
  | .trackDeferred operation => t.become (t.state.trackDeferred operation)
  | .forgetDeferred operation =>
    t.become { t.state with deferred := (DeferredQueue.pop t.state.deferred operation).2 }
  | .completeDeferred operation pipelines =>
    t.become (t.state.completeDeferred operation pipelines).2
  | .pipelineDestroyed pipeline => t.become (t.state.pipelineDestroyed pipeline)
  | .prepareShaderObjects infos call =>
    let prepared := t.state.prepareShaderObjects infos call
    { t with state := prepared.2, shaderObjects := t.shaderObjects ++ [prepared.1] }
  | .shaderObjectsCreated creation objects =>
    t.finishShaderObjects creation fun drafts ↦ t.state.shaderObjectsCreated drafts objects
  | .shaderObjectDestroyed object => t.become (t.state.shaderObjectDestroyed object)
  | .waitEvents commandBuffer stages location =>
    t.become (t.state.waitEvents commandBuffer stages location).2
  | .message violation names => t.become (t.state.message violation names).2
  | .internalError location message => t.become (t.state.internalError location message)

/-- A run of hooks, oldest first. -/
def run (t : Session P) (hooks : List Hook) : Session P := hooks.foldl step t

@[simp] theorem run_nil (t : Session P) : t.run [] = t := rfl

@[simp] theorem run_cons (t : Session P) (hook : Hook) (rest : List Hook) :
    t.run (hook :: rest) = (t.step hook).run rest := rfl

theorem run_append (t : Session P) (first second : List Hook) :
    t.run (first ++ second) = (t.run first).run second :=
  List.foldl_append

/-- What a run notes down: what each hook of it notes, in the order of the run. -/
def collect {α : Type} (note : Session P → Hook → List α) (t : Session P) : List Hook → List α
  | [] => []
  | hook :: rest => note t hook ++ collect note (t.step hook) rest

theorem collect_append {α : Type} (note : Session P → Hook → List α) (t : Session P)
    (first second : List Hook) :
    collect note t (first ++ second) =
      collect note t first ++ collect note (t.run first) second := by
  induction first generalizing t with
  | nil => rfl
  | cons hook rest ih =>
    simp only [List.cons_append, collect, run_cons, List.append_assoc]
    rw [ih]

/-- What is noted in a run is noted by one of its hooks. -/
theorem mem_collect_iff {α : Type} {note : Session P → Hook → List α} {t : Session P}
    {hooks : List Hook} {a : α} :
    a ∈ collect note t hooks ↔
      ∃ older hook newer, hooks = older ++ hook :: newer ∧ a ∈ note (t.run older) hook := by
  constructor
  · intro h
    induction hooks generalizing t with
    | nil => exact absurd h List.not_mem_nil
    | cons hook rest ih =>
      rcases List.mem_append.mp h with hhead | hrest
      · exact ⟨[], hook, rest, rfl, hhead⟩
      · obtain ⟨older, other, newer, rfl, hother⟩ := ih hrest
        exact ⟨hook :: older, other, newer, rfl, hother⟩
  · rintro ⟨older, hook, newer, rfl, h⟩
    rw [collect_append]
    exact List.mem_append_right _ (List.mem_append_left _ h)

/-- Assumes: a relation that each hook of a kind keeps. A run of such hooks keeps it. -/
theorem chains_run {α : Type} {R : Session P → List α → Session P → Prop} (h : Chains R)
    {note : Session P → Hook → List α} {allowed : Hook → Prop}
    (hstep : ∀ t hook, allowed hook → R t (note t hook) (t.step hook)) (t : Session P)
    (hooks : List Hook) (hallowed : ∀ hook ∈ hooks, allowed hook) :
    R t (collect note t hooks) (t.run hooks) := by
  induction hooks generalizing t with
  | nil => exact h.refl t
  | cons hook rest ih =>
    exact h.trans (hstep t hook (hallowed hook List.mem_cons_self))
      (ih _ fun other hother ↦ hallowed other (List.mem_cons_of_mem _ hother))

/-- That each hook of a run is allowed in the state that it meets. -/
def Along (allowed : Session P → Hook → Prop) (t : Session P) : List Hook → Prop
  | [] => True
  | hook :: rest => allowed t hook ∧ Along allowed (t.step hook) rest

instance decidableAlong (allowed : Session P → Hook → Prop) [∀ t hook, Decidable (allowed t hook)]
    (t : Session P) (hooks : List Hook) : Decidable (Along allowed t hooks) :=
  match hooks with
  | [] => isTrue trivial
  | hook :: rest =>
    haveI := decidableAlong allowed (t.step hook) rest
    inferInstanceAs (Decidable (_ ∧ _))

theorem along_append {allowed : Session P → Hook → Prop} {t : Session P} {first second : List Hook}
    (h : t.Along allowed (first ++ second)) :
    t.Along allowed first ∧ (t.run first).Along allowed second := by
  induction first generalizing t with
  | nil => exact ⟨trivial, h⟩
  | cons hook rest ih =>
    obtain ⟨hhook, hrest⟩ := h
    obtain ⟨hfirst, hsecond⟩ := ih hrest
    exact ⟨⟨hhook, hfirst⟩, hsecond⟩

end Session

end ShaderGuard
