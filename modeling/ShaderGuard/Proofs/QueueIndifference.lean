import ShaderGuard.Proofs.Frame

/-!
# What does not look at the queue

Most of what the library does has nothing to do with deferred operations: it does the same whatever
waits for them, and leaves the queue as it found it. In a formula, it makes no difference whether
the queue is replaced before or after (`Instrumentor.withDeferred`). The lemmas say so of everything
that hooks do, from the calls to the device up to whole hooks (`Session.step_withDeferred`).
-/

set_option autoImplicit false

namespace ShaderGuard

open Bytecode (ShaderId)

/-- Assumes: a change of the state that makes no difference to a step. It makes none to working
through a list. -/
theorem thread_map_state {σ α β : Type} (change : σ → σ) {step : σ → α → β × σ}
    (h : ∀ s a, step (change s) a = ((step s a).1, change (step s a).2)) (s : σ) (xs : List α) :
    thread step (change s) xs = ((thread step s xs).1, change (thread step s xs).2) := by
  induction xs generalizing s with
  | nil => rfl
  | cons a rest ih => rw [thread_cons, thread_cons, h, ih]

/-- Assumes: a change of the state that makes no difference to a step. It makes none to a fold. -/
theorem foldl_map_state {σ α : Type} (change : σ → σ) {step : σ → α → σ}
    (h : ∀ s a, step (change s) a = change (step s a)) (s : σ) (xs : List α) :
    xs.foldl step (change s) = change (xs.foldl step s) := by
  induction xs generalizing s with
  | nil => rfl
  | cons a rest ih => rw [List.foldl_cons, List.foldl_cons, h, ih]

variable {P : Platform}

namespace Instrumentor

/-- The state with another queue. -/
def withDeferred (s : Instrumentor P) (deferred : DeferredQueue Recording) : Instrumentor P :=
  { s with deferred }

variable (s : Instrumentor P) (deferred : DeferredQueue Recording)

@[simp] theorem deferred_withDeferred : (s.withDeferred deferred).deferred = deferred := rfl

/-- A state that is the same with the queue of another one has this queue. -/
theorem deferred_eq_of_withDeferred {s t : Instrumentor P} (h : t = t.withDeferred s.deferred) :
    t.deferred = s.deferred := by
  rw [h, deferred_withDeferred]

@[simp] theorem subsystem_withDeferred : (s.withDeferred deferred).subsystem = s.subsystem := rfl

@[simp] theorem settings_withDeferred : (s.withDeferred deferred).settings = s.settings := rfl

@[simp] theorem isInstrumenting_withDeferred :
    (s.withDeferred deferred).isInstrumenting = s.isInstrumenting := rfl

@[simp] theorem resources_withDeferred : (s.withDeferred deferred).resources = s.resources := rfl

@[simp] theorem reservation_withDeferred :
    (s.withDeferred deferred).reservation = s.reservation := rfl

@[simp] theorem reservedSlot_withDeferred :
    (s.withDeferred deferred).reservedSlot = s.reservedSlot := rfl

/-! ### Before creations -/

theorem createModule_withDeferred (code : Code) :
    (s.withDeferred deferred).createModule code =
      ((s.createModule code).1, (s.createModule code).2.withDeferred deferred) := rfl

theorem keep_withDeferred (id : ShaderId) (words : Code) :
    (s.withDeferred deferred).keep id words = (s.keep id words).withDeferred deferred := by
  unfold keep
  rw [settings_withDeferred]
  split <;> rfl

theorem runPasses_withDeferred (resources : DeviceResources) (id : ShaderId) (code : Code)
    (bindless : Bool) (location : String) :
    (s.withDeferred deferred).runPasses resources id code bindless location =
      ((s.runPasses resources id code bindless location).1,
        (s.runPasses resources id code bindless location).2.withDeferred deferred) := by
  have hrun : (s.withDeferred deferred).passPlan resources = s.passPlan resources := rfl
  have hbench : (s.withDeferred deferred).toWorkbench = s.toWorkbench := rfl
  unfold runPasses
  rw [hrun, hbench]
  generalize (s.passPlan resources).run s.toWorkbench code id bindless = ran
  obtain ⟨outcome, bench⟩ := ran
  cases outcome with
  | error fault => rfl
  | ok outcome =>
    cases outcome with
    | instrumented made =>
      exact Prod.ext rfl (keep_withDeferred { s with toWorkbench := bench } deferred id made)
    | unmodified => rfl
    | notShader => rfl

theorem identify_withDeferred (code : Code) :
    (s.withDeferred deferred).identify code =
      ((s.identify code).1, (s.identify code).2.withDeferred deferred) := by
  unfold identify
  rw [settings_withDeferred]
  split <;> rfl

theorem instrumentCode_withDeferred (code : Code) (bindless : Bool) (location : String) :
    (s.withDeferred deferred).instrumentCode code bindless location =
      ((s.instrumentCode code bindless location).1,
        (s.instrumentCode code bindless location).2.withDeferred deferred) := by
  have hcached (u : Instrumentor P) (id : ShaderId) :
      (u.withDeferred deferred).cached? id = u.cached? id := rfl
  unfold instrumentCode
  rw [resources_withDeferred, isInstrumenting_withDeferred, identify_withDeferred]
  cases s.resources with
  | none => rfl
  | some resources =>
    simp only [hcached]
    split
    · split
      · rfl
      · exact runPasses_withDeferred _ deferred resources _ code bindless location
    · rfl

theorem placeCode_withDeferred (site : StageSite) (stage : ShaderStage) (index : Nat)
    (made : InstrumentedCode) :
    placeCode site (s.withDeferred deferred) stage index made =
      ((placeCode site s stage index made).1,
        (placeCode site s stage index made).2.withDeferred deferred) := by
  unfold placeCode
  rw [createModule_withDeferred]
  simp only []
  split
  · split <;> rfl
  · split <;> rfl

theorem instrumentStage_withDeferred (site : StageSite) (indexed : ShaderStage × Nat) :
    instrumentStage site (s.withDeferred deferred) indexed =
      ((instrumentStage site s indexed).1,
        (instrumentStage site s indexed).2.withDeferred deferred) := by
  have hselected : (s.withDeferred deferred).isSelected indexed.1 = s.isSelected indexed.1 := rfl
  unfold instrumentStage
  simp only [hselected, instrumentCode_withDeferred]
  split
  · rfl
  · split
    · split
      · rfl
      · exact placeCode_withDeferred _ deferred site indexed.1 indexed.2 _
    · rfl

theorem instrumentStages_withDeferred (site : StageSite) (stages : List ShaderStage) :
    instrumentStages site (s.withDeferred deferred) stages =
      ((instrumentStages site s stages).1,
        (instrumentStages site s stages).2.withDeferred deferred) :=
  thread_map_state (withDeferred · deferred)
    (fun s indexed ↦ instrumentStage_withDeferred s deferred site indexed) s stages.zipIdx

/-- The state in which libraries are linked, with another queue. -/
def LinkState.withDeferred (link : LinkState P) (deferred : DeferredQueue Recording) :
    LinkState P :=
  { link with state := link.state.withDeferred deferred }

theorem relinkLibrary_withDeferred (site : StageSite) (link : LinkState P)
    (library : GraphicsLibrary) :
    relinkLibrary site (link.withDeferred deferred) library =
      ((relinkLibrary site link library).1,
        (relinkLibrary site link library).2.withDeferred deferred) := by
  have hstate : (link.withDeferred deferred).state = link.state.withDeferred deferred := rfl
  have hobjects : (link.withDeferred deferred).objects = link.objects := rfl
  have hcreate (u : Instrumentor P) (info : GraphicsInfo) :
      (u.withDeferred deferred).createLibrary info =
        ((u.createLibrary info).1, (u.createLibrary info).2.withDeferred deferred) := rfl
  unfold relinkLibrary
  simp only [hstate, hobjects, instrumentStages_withDeferred, hcreate]
  split
  · rfl
  · split <;> rfl

theorem preparePipeline_withDeferred (slot : UInt32) (location : String)
    (indexed : PipelineInfo × Nat) :
    preparePipeline slot location (s.withDeferred deferred) indexed =
      ((preparePipeline slot location s indexed).1,
        (preparePipeline slot location s indexed).2.withDeferred deferred) := by
  unfold preparePipeline
  split
  · have hlink : (⟨{}, s.withDeferred deferred⟩ : LinkState P) =
        LinkState.withDeferred ⟨{}, s⟩ deferred := rfl
    have hlinked (site : StageSite) := thread_map_state (LinkState.withDeferred · deferred)
      (fun link library ↦ relinkLibrary_withDeferred deferred site link library) ⟨{}, s⟩
      indexed.1.libraries
    have hstate (link : LinkState P) :
        (link.withDeferred deferred).state = link.state.withDeferred deferred := rfl
    have hobjects (link : LinkState P) : (link.withDeferred deferred).objects = link.objects := rfl
    unfold instrumentPipeline
    simp only [hlink, hlinked, hstate, hobjects, instrumentStages_withDeferred]
    rfl
  · rfl

theorem preparePipelines_withDeferred (infos : List PipelineInfo) (location : String) :
    (s.withDeferred deferred).preparePipelines infos location =
      ((s.preparePipelines infos location).1,
        (s.preparePipelines infos location).2.withDeferred deferred) := by
  unfold preparePipelines
  rw [reservedSlot_withDeferred, isInstrumenting_withDeferred]
  split
  · rfl
  · next slot _ =>
    split
    · exact thread_map_state (withDeferred · deferred)
        (fun s indexed ↦ preparePipeline_withDeferred s deferred slot location indexed) s
        infos.zipIdx
    · rfl

theorem prepareShaderObject_withDeferred (reservation : Reservation) (call : String)
    (indexed : ShaderObjectInfo × Nat) :
    prepareShaderObject reservation call (s.withDeferred deferred) indexed =
      ((prepareShaderObject reservation call s indexed).1,
        (prepareShaderObject reservation call s indexed).2.withDeferred deferred) := by
  unfold prepareShaderObject instrumentObject
  simp only [settings_withDeferred, instrumentCode_withDeferred]
  split
  · rfl
  · split
    · rfl
    · split <;> rfl

theorem prepareShaderObjects_withDeferred (infos : List ShaderObjectInfo) (call : String) :
    (s.withDeferred deferred).prepareShaderObjects infos call =
      ((s.prepareShaderObjects infos call).1,
        (s.prepareShaderObjects infos call).2.withDeferred deferred) := by
  unfold prepareShaderObjects
  rw [reservation_withDeferred, isInstrumenting_withDeferred]
  split
  · rfl
  · next reservation _ =>
    split
    · exact thread_map_state (withDeferred · deferred)
        (fun s indexed ↦ prepareShaderObject_withDeferred s deferred reservation call indexed) s
        infos.zipIdx
    · rfl

/-! ### After creations -/

/-- That a change of the state has nothing to do with what recordings read and write: the log, the
device, the registry and the objects of pipelines. -/
def BesidesRecords (change : Instrumentor P → Instrumentor P) : Prop :=
  ∀ s log device registry pipelines,
    change { s with log, device, registry, pipelines } =
      { change s with log, device, registry, pipelines }

theorem besidesRecords_withDeferred :
    BesidesRecords fun s : Instrumentor P ↦ s.withDeferred deferred :=
  fun _ _ _ _ _ ↦ rfl

namespace BesidesRecords

variable {change : Instrumentor P → Instrumentor P} (h : BesidesRecords change)
include h

/-- The change written out: all that it may touch is what recordings neither read nor write. -/
theorem change_eq : change s =
    { change s with
      log := s.log, device := s.device, registry := s.registry, pipelines := s.pipelines } :=
  h s s.log s.device s.registry s.pipelines

theorem destroyModule (module : ModuleHandle) :
    (change s).destroyModule module = change (s.destroyModule module) := by
  have hafter := h s (s.destroyModule module).log (s.destroyModule module).device s.registry
    s.pipelines
  rw [h.change_eq s]
  exact hafter.symm

theorem destroyLibrary (library : PipelineHandle) :
    (change s).destroyLibrary library = change (s.destroyLibrary library) := by
  have hafter := h s (s.destroyLibrary library).log (s.destroyLibrary library).device s.registry
    s.pipelines
  rw [h.change_eq s]
  exact hafter.symm

theorem release (objects : PipelineObjects) :
    (change s).release objects = change (s.release objects) := by
  unfold Instrumentor.release
  rw [foldl_map_state change fun s module ↦ h.destroyModule s module,
    foldl_map_state change fun s library ↦ h.destroyLibrary s library]

theorem releaseAll (drafts : List PipelineDraft) :
    drafts.foldl (fun s draft ↦ s.release draft.objects) (change s) =
      change (drafts.foldl (fun s draft ↦ s.release draft.objects) s) :=
  foldl_map_state change (fun s (draft : PipelineDraft) ↦ h.release s draft.objects) s drafts

theorem register (entries : List (ShaderId × InstrumentedShader)) :
    (change s).register entries = change (s.register entries) := by
  have hafter := h s s.log s.device (s.register entries).registry s.pipelines
  rw [h.change_eq s]
  exact hafter.symm

theorem insertPipeline (pipeline : PipelineHandle) (objects : PipelineObjects) :
    { change s with pipelines := (change s).pipelines.insert pipeline objects } =
      change { s with pipelines := s.pipelines.insert pipeline objects } := by
  have hafter := h s s.log s.device s.registry (s.pipelines.insert pipeline objects)
  rw [h.change_eq s]
  exact hafter.symm

theorem recordPipeline (registering : Bool) (draft : PipelineDraft) (pipeline : PipelineHandle) :
    Instrumentor.recordPipeline registering (change s) draft pipeline =
      change (Instrumentor.recordPipeline registering s draft pipeline) := by
  unfold Instrumentor.recordPipeline
  split
  · exact h.release s draft.objects
  · simp only [h.register]
    -- the stages are registered or not, and there are objects to remember or not
    split
    all_goals
      split
      · rfl
      · exact h.insertPipeline _ pipeline _

theorem recordAll (registering : Bool) (drafts : List PipelineDraft)
    (pipelines : List PipelineHandle) :
    Instrumentor.recordAll registering (change s) drafts pipelines =
      change (Instrumentor.recordAll registering s drafts pipelines) := by
  induction drafts generalizing s pipelines with
  | nil => rfl
  | cons draft rest ih =>
    unfold Instrumentor.recordAll
    rw [h.recordPipeline, ih]

theorem recordWaiting (recordings : List Recording) (pipelines : List PipelineHandle) :
    recordings.foldl (fun s recording ↦ Instrumentor.recordAll recording.register s recording.drafts
        pipelines) (change s) =
      change (recordings.foldl (fun s recording ↦ Instrumentor.recordAll recording.register s
        recording.drafts pipelines) s) :=
  foldl_map_state change
    (fun s (recording : Recording) ↦ h.recordAll s recording.register recording.drafts pipelines) s
    recordings

end BesidesRecords

theorem deferred_recordAll (registering : Bool) (drafts : List PipelineDraft)
    (pipelines : List PipelineHandle) :
    (recordAll registering s drafts pipelines).deferred = s.deferred :=
  deferred_eq_of_withDeferred
    ((besidesRecords_withDeferred s.deferred).recordAll s registering drafts pipelines)

theorem deferred_recordWaiting (recordings : List Recording) (pipelines : List PipelineHandle) :
    (recordings.foldl (fun s recording ↦ recordAll recording.register s recording.drafts pipelines)
      s).deferred = s.deferred :=
  deferred_eq_of_withDeferred
    ((besidesRecords_withDeferred s.deferred).recordWaiting s recordings pipelines)

theorem deferred_releaseAll (drafts : List PipelineDraft) :
    (drafts.foldl (fun s draft ↦ s.release draft.objects) s).deferred = s.deferred :=
  deferred_eq_of_withDeferred ((besidesRecords_withDeferred s.deferred).releaseAll s drafts)

theorem pipelineDestroyed_withDeferred (pipeline : PipelineHandle) :
    (s.withDeferred deferred).pipelineDestroyed pipeline =
      (s.pipelineDestroyed pipeline).withDeferred deferred := by
  have hpipelines : (s.withDeferred deferred).pipelines = s.pipelines := rfl
  unfold pipelineDestroyed
  simp only [hpipelines]
  split
  · rfl
  · exact (besidesRecords_withDeferred deferred).release
      { s with registry := (s.registry.erasePipeline pipeline).2,
               pipelines := s.pipelines.erase pipeline } _

theorem recordShaderObjects_withDeferred (drafts : List ShaderObjectDraft)
    (objects : List ShaderObjectHandle) :
    (s.withDeferred deferred).recordShaderObjects drafts objects =
      (s.recordShaderObjects drafts objects).withDeferred deferred := by
  induction drafts generalizing s objects with
  | nil => rfl
  | cons draft rest ih =>
    have hhead : (s.withDeferred deferred).recordShaderObject draft (objects.headD .null) =
        (s.recordShaderObject draft (objects.headD .null)).withDeferred deferred := by
      unfold recordShaderObject
      split
      · rfl
      · split <;> rfl
    unfold recordShaderObjects
    rw [hhead, ih]

theorem shaderObjectsCreated_withDeferred (drafts : List ShaderObjectDraft)
    (objects : List ShaderObjectHandle) :
    (s.withDeferred deferred).shaderObjectsCreated drafts objects =
      (s.shaderObjectsCreated drafts objects).withDeferred deferred := by
  unfold shaderObjectsCreated
  rw [isInstrumenting_withDeferred]
  split
  · exact recordShaderObjects_withDeferred s deferred drafts objects
  · rfl

/-! ### The device, and reports -/

theorem reserve_withDeferred (slot : UInt32) :
    (s.withDeferred deferred).reserve slot =
      ((s.reserve slot).1, (s.reserve slot).2.withDeferred deferred) := by
  have hset (u : Instrumentor P) (bindings : List SetBinding) :
      (u.withDeferred deferred).createSetLayout bindings =
        ((u.createSetLayout bindings).1, (u.createSetLayout bindings).2.withDeferred deferred) :=
    rfl
  have hlayout (u : Instrumentor P) (layouts : List SetLayoutHandle) :
      (u.withDeferred deferred).createPipelineLayout layouts =
        ((u.createPipelineLayout layouts).1,
          (u.createPipelineLayout layouts).2.withDeferred deferred) := rfl
  unfold reserve
  simp only [hset, hlayout]
  split
  · rfl
  · split
    · rfl
    · split <;> rfl

theorem setUpDevice_withDeferred (capabilities : Capabilities) :
    (s.withDeferred deferred).setUpDevice capabilities =
      ((s.setUpDevice capabilities).1, (s.setUpDevice capabilities).2.withDeferred deferred) := by
  unfold setUpDevice
  simp only [subsystem_withDeferred, reserve_withDeferred]
  split
  · rfl
  · split
    · rfl
    · split
      · rfl
      · split <;> rfl

theorem tearDownDevice_withDeferred :
    (s.withDeferred deferred).tearDownDevice = s.tearDownDevice.withDeferred deferred := by
  unfold tearDownDevice
  rw [resources_withDeferred]
  cases s.resources <;> rfl

theorem patchPipelineLayout_withDeferred (layouts : List SetLayoutHandle) :
    (s.withDeferred deferred).patchPipelineLayout layouts =
      ((s.patchPipelineLayout layouts).1,
        (s.patchPipelineLayout layouts).2.withDeferred deferred) := by
  unfold patchPipelineLayout
  rw [reservation_withDeferred, isInstrumenting_withDeferred]
  split
  · rfl
  · split
    · split <;> rfl
    · rfl

theorem moduleCreated_withDeferred (module : ModuleHandle) (selected : Bool) :
    (s.withDeferred deferred).moduleCreated module selected =
      (s.moduleCreated module selected).withDeferred deferred := by
  unfold moduleCreated
  rw [settings_withDeferred]
  split <;> rfl

theorem advertise_withDeferred (limit : UInt32) :
    (s.withDeferred deferred).advertise limit =
      ((s.advertise limit).1, (s.advertise limit).2.withDeferred deferred) := by
  have hwarned (texts : List String) :
      texts.foldl (fun s text ↦ s.warn "vkGetPhysicalDeviceProperties" text)
          (s.withDeferred deferred) =
        (texts.foldl (fun s text ↦ s.warn "vkGetPhysicalDeviceProperties" text) s).withDeferred
          deferred :=
    foldl_map_state (withDeferred · deferred) (fun _ _ ↦ rfl) s texts
  unfold advertise
  simp only [settings_withDeferred, hwarned]

end Instrumentor

/-! ### Hooks -/

/-- Whether a hook has nothing to do with deferred operations. -/
def Hook.leavesDeferred : Hook → Bool
  | .rayTracingPipelinesCreated _ _ _ _ | .trackDeferred _ | .forgetDeferred _
  | .completeDeferred _ _ => false
  | _ => true

namespace Session

open Instrumentor

variable (t : Session P) (deferred : DeferredQueue Recording)

/-- The session with another queue. -/
def withDeferred : Session P := { t with state := t.state.withDeferred deferred }

@[simp] theorem state_withDeferred :
    (t.withDeferred deferred).state = t.state.withDeferred deferred := rfl

@[simp] theorem pipelines_withDeferred : (t.withDeferred deferred).pipelines = t.pipelines := rfl

@[simp] theorem shaderObjects_withDeferred :
    (t.withDeferred deferred).shaderObjects = t.shaderObjects := rfl

/-- Hooks that have to do with no deferred operation do the same whatever waits. -/
theorem step_withDeferred {hook : Hook} (h : hook.leavesDeferred = true) :
    (t.withDeferred deferred).step hook = (t.step hook).withDeferred deferred := by
  cases hook with
  | setUpDevice capabilities =>
    simp only [step, state_withDeferred, setUpDevice_withDeferred]
    rfl
  | tearDownDevice =>
    simp only [step, state_withDeferred, tearDownDevice_withDeferred]
    rfl
  | advertise limit =>
    simp only [step, state_withDeferred, advertise_withDeferred]
    rfl
  | patchPipelineLayout layouts =>
    simp only [step, state_withDeferred, patchPipelineLayout_withDeferred]
    rfl
  | pipelineLayoutCreated patched failed =>
    simp only [step, state_withDeferred, pipelineLayoutCreated]
    split <;> rfl
  | moduleCreated module selected =>
    simp only [step, state_withDeferred, moduleCreated_withDeferred]
    rfl
  | preparePipelines infos location =>
    simp only [step, state_withDeferred, preparePipelines_withDeferred]
    rfl
  | pipelinesCreated creation pipelines =>
    have hrecorded := (besidesRecords_withDeferred (P := P) deferred).recordAll t.state
    simp only [step, finishPipelines, pipelines_withDeferred, state_withDeferred,
      pipelinesCreated, hrecorded]
    split <;> rfl
  | pipelineDestroyed pipeline =>
    simp only [step, state_withDeferred, pipelineDestroyed_withDeferred]
    rfl
  | prepareShaderObjects infos call =>
    simp only [step, state_withDeferred, prepareShaderObjects_withDeferred]
    rfl
  | shaderObjectsCreated creation objects =>
    simp only [step, finishShaderObjects, shaderObjects_withDeferred, state_withDeferred,
      shaderObjectsCreated_withDeferred]
    split <;> rfl
  | waitEvents commandBuffer stages location =>
    simp only [step, state_withDeferred, waitEvents]
    split <;> rfl
  | moduleDestroyed _ | shaderObjectDestroyed _ | message _ _ | internalError _ _ => rfl
  | rayTracingPipelinesCreated _ _ _ _ | trackDeferred _ | forgetDeferred _
  | completeDeferred _ _ => cases h

/-- Hooks that have to do with no deferred operation leave what waits alone. -/
theorem deferred_step {hook : Hook} (h : hook.leavesDeferred = true) :
    (t.step hook).state.deferred = t.state.deferred :=
  deferred_eq_of_withDeferred (congrArg state (t.step_withDeferred t.state.deferred h))

end Session

end ShaderGuard
