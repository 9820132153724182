import ShaderGuard.Proofs.Attempts

/-!
# What hooks leave alone

The state of an instrumentation has two halves. Its holdings are what is known of objects that
exist: the registry, the objects made for recorded pipelines, the instrumented shader objects and
the drafts that wait for deferred operations. Its supplies are what instrumented code is made from:
the settings, the resources of the device, the cache and the counter. Hooks before creations leave
the holdings alone (`sameHoldings_step`), and hooks after creations or before destructions leave the
supplies alone (`sameSupplies_step`). Hooks that concern no object do no more than report
(`onlyReports_step`). Hooks that concern created pipelines do no more than record and destroy, so
they keep whatever these keep (`quietBookkeeping_step`, `onlyRecords_step`). In the same way a setup
keeps what the creation and the destruction of layouts keep (`Reserves.setUpDevice`), and a teardown
what their destruction keeps (`Clears.tearDownDevice`). The settings never change (`settings_run`).
-/

set_option autoImplicit false

namespace ShaderGuard

open Bytecode (ShaderId)

variable {P : Platform}

/-- A relation between states that may be followed along a fold. Assumes: a relation that is
reflexive and transitive and that each step keeps. -/
theorem foldl_related {σ α : Type} {R : σ → σ → Prop} (hrefl : ∀ s, R s s)
    (htrans : ∀ {s t u}, R s t → R t u → R s u) {step : σ → α → σ} (hstep : ∀ s a, R s (step s a))
    (xs : List α) (s : σ) : R s (xs.foldl step s) := by
  induction xs generalizing s with
  | nil => exact hrefl s
  | cons a rest ih => exact htrans (hstep s a) (ih _)

namespace Instrumentor

/-! ### Attempts -/

/-- Giving out an identifier concerns the counter alone. -/
theorem exists_identify_eq (s : Instrumentor P) (code : Code) :
    ∃ nextId, (s.identify code).2 = { s with nextId } := by
  unfold identify
  split
  · exact ⟨s.nextId, rfl⟩
  · exact ⟨s.nextId + 1, rfl⟩

/-- Keeping instrumented code concerns the cache alone. -/
theorem exists_keep_eq (s : Instrumentor P) (id : ShaderId) (words : Code) :
    ∃ cache, s.keep id words = { s with cache } ∧
      (cache = s.cache ∨ cache = s.cache.insert id words) := by
  unfold keep
  split
  · exact ⟨_, rfl, Or.inr rfl⟩
  · exact ⟨_, rfl, Or.inl rfl⟩

/-- Instrumenting code concerns the tools, the files and the log, the cache and the counter, and
whether instrumentation is switched on. -/
theorem exists_instrumentCode_eq (s : Instrumentor P) (code : Code) (bindless : Bool)
    (location : String) : ∃ bench subsystem cache nextId,
      (s.instrumentCode code bindless location).2 =
        { s with toWorkbench := bench, subsystem, cache, nextId } ∧
      subsystem.settings = s.subsystem.settings := by
  obtain ⟨nextId, hidentified⟩ := exists_identify_eq s code
  unfold instrumentCode
  split
  · exact ⟨_, _, _, _, rfl, rfl⟩
  · split
    · simp only [hidentified]
      split
      · exact ⟨_, _, _, _, rfl, rfl⟩
      · unfold runPasses
        simp only []
        split
        · next words _ =>
          obtain ⟨cache, hkept, -⟩ := exists_keep_eq ({ s with nextId, toWorkbench := _ } :
            Instrumentor P) (s.identify code).1 words
          rw [hkept]
          exact ⟨_, _, cache, _, rfl, rfl⟩
        all_goals exact ⟨_, _, _, _, rfl, rfl⟩
    · exact ⟨_, _, _, _, rfl, rfl⟩

/-! ### Releases -/

/-- A relation between two states that is kept where modules and libraries are destroyed. -/
structure Releases (R : Instrumentor P → Instrumentor P → Prop) : Prop where
  refl : ∀ s, R s s
  trans : ∀ {s t u}, R s t → R t u → R s u
  destroyModule : ∀ s module, R s (s.destroyModule module)
  destroyLibrary : ∀ s library, R s (s.destroyLibrary library)

namespace Releases

variable {R : Instrumentor P → Instrumentor P → Prop}

theorem release (h : Releases R) (s : Instrumentor P) (objects : PipelineObjects) :
    R s (s.release objects) :=
  h.trans (foldl_related h.refl h.trans h.destroyModule objects.modules s)
    (foldl_related h.refl h.trans h.destroyLibrary objects.libraries _)

theorem releaseAll (h : Releases R) (s : Instrumentor P) (drafts : List PipelineDraft) :
    R s (drafts.foldl (fun s draft ↦ s.release draft.objects) s) :=
  foldl_related h.refl h.trans (fun s (draft : PipelineDraft) ↦ h.release s draft.objects) drafts s

end Releases

/-! ### Holdings -/

/-- Two states that know the same of the objects that exist. -/
structure SameHoldings (s t : Instrumentor P) : Prop where
  settings : t.settings = s.settings
  registry : t.registry = s.registry
  pipelines : t.pipelines = s.pipelines
  shaderObjects : t.shaderObjects = s.shaderObjects
  deferred : t.deferred = s.deferred

namespace SameHoldings

theorem refl (s : Instrumentor P) : SameHoldings s s := ⟨rfl, rfl, rfl, rfl, rfl⟩

theorem trans {s t u : Instrumentor P} (hst : SameHoldings s t) (htu : SameHoldings t u) :
    SameHoldings s u :=
  ⟨htu.settings.trans hst.settings, htu.registry.trans hst.registry,
    htu.pipelines.trans hst.pipelines, htu.shaderObjects.trans hst.shaderObjects,
    htu.deferred.trans hst.deferred⟩

theorem instrumentCode (s : Instrumentor P) (code : Code) (bindless : Bool) (location : String) :
    SameHoldings s (s.instrumentCode code bindless location).2 := by
  obtain ⟨bench, subsystem, cache, nextId, hafter, hsettings⟩ :=
    exists_instrumentCode_eq s code bindless location
  rw [hafter]
  exact ⟨hsettings, rfl, rfl, rfl, rfl⟩

/-- The hooks before creations leave the holdings alone. -/
theorem rewrites : Rewrites (P := P) fun s _ t ↦ SameHoldings s t where
  refl := refl
  trans := trans
  record _ _ := ⟨rfl, rfl, rfl, rfl, rfl⟩
  internalError _ _ _ := ⟨rfl, rfl, rfl, rfl, rfl⟩
  createModule _ _ := ⟨rfl, rfl, rfl, rfl, rfl⟩
  createLibrary _ _ := ⟨rfl, rfl, rfl, rfl, rfl⟩
  instrumentCode := SameHoldings.instrumentCode

theorem releases : Releases (P := P) SameHoldings where
  refl := refl
  trans := trans
  destroyModule _ _ := ⟨rfl, rfl, rfl, rfl, rfl⟩
  destroyLibrary _ _ := ⟨rfl, rfl, rfl, rfl, rfl⟩

end SameHoldings

/-- Recording shader objects concerns the registry and the shader objects alone. -/
theorem exists_recordShaderObjects_eq (s : Instrumentor P) (drafts : List ShaderObjectDraft)
    (objects : List ShaderObjectHandle) : ∃ registry shaderObjects,
      s.recordShaderObjects drafts objects = { s with registry, shaderObjects } := by
  induction drafts generalizing s objects with
  | nil => exact ⟨s.registry, s.shaderObjects, rfl⟩
  | cons draft rest ih =>
    unfold recordShaderObjects
    obtain ⟨registry, shaderObjects, hrest⟩ :=
      ih (s.recordShaderObject draft (objects.headD .null)) objects.tail
    refine ⟨registry, shaderObjects, hrest.trans ?_⟩
    unfold recordShaderObject
    split
    · rfl
    · split <;> rfl

theorem exists_shaderObjectsCreated_eq (s : Instrumentor P) (drafts : List ShaderObjectDraft)
    (objects : List ShaderObjectHandle) : ∃ registry shaderObjects,
      s.shaderObjectsCreated drafts objects = { s with registry, shaderObjects } := by
  unfold shaderObjectsCreated
  split
  · exact exists_recordShaderObjects_eq s drafts objects
  · exact ⟨s.registry, s.shaderObjects, rfl⟩

/-! ### Supplies -/

/-- Two states that make instrumented code from the same things. -/
structure SameSupplies (s t : Instrumentor P) : Prop where
  settings : t.settings = s.settings
  resources : t.resources = s.resources
  cache : t.cache = s.cache
  nextId : t.nextId = s.nextId

namespace SameSupplies

theorem refl (s : Instrumentor P) : SameSupplies s s := ⟨rfl, rfl, rfl, rfl⟩

end SameSupplies

/-! ### Records -/

/-- A relation between two states that is kept by all that is done with created pipelines: what was
made for them may be destroyed, what is known of them changes, and what is recorded in the log says
of no internal error. -/
structure QuietBookkeeping (R : Instrumentor P → Instrumentor P → Prop) : Prop
    extends Releases R where
  note : ∀ (s : Instrumentor P) registry pipelines deferred,
    R s { s with registry, pipelines, deferred }
  record : ∀ (s : Instrumentor P) entry, entry.reportsInternalError = false → R s (s.record entry)

namespace QuietBookkeeping

variable {R : Instrumentor P → Instrumentor P → Prop}

theorem recordPipeline (h : QuietBookkeeping R) (registering : Bool) (s : Instrumentor P)
    (draft : PipelineDraft) (pipeline : PipelineHandle) :
    R s (recordPipeline registering s draft pipeline) := by
  simp only [Instrumentor.recordPipeline]
  by_cases hnull : pipeline.isNull = true
  · rw [if_pos hnull]
    exact h.toReleases.release s draft.objects
  · rw [if_neg hnull]
    split <;> split <;> exact h.note s _ _ _

theorem recordAll (h : QuietBookkeeping R) (registering : Bool) (s : Instrumentor P)
    (drafts : List PipelineDraft) (pipelines : List PipelineHandle) :
    R s (recordAll registering s drafts pipelines) := by
  induction drafts generalizing s pipelines with
  | nil => exact h.refl s
  | cons draft rest ih => exact h.trans (h.recordPipeline registering s draft _) (ih _ _)

theorem rayTracingPipelinesCreated (h : QuietBookkeeping R) (s : Instrumentor P)
    (drafts : List PipelineDraft) (operation : DeferredHandle) (result : CreationResult)
    (pipelines : List PipelineHandle) :
    R s (s.rayTracingPipelinesCreated drafts operation result pipelines) := by
  rcases s.rayTracingPipelinesCreated_cases drafts operation result pipelines with
    ⟨-, hafter⟩ | ⟨-, -, deferred, -, hafter⟩ | ⟨-, -, hafter⟩ <;> rw [hafter]
  · exact h.recordAll _ s drafts pipelines
  · exact h.note s _ _ _
  · exact h.trans (h.record s _ (reportsInternalError_plain _ _ _))
      (h.toReleases.releaseAll _ drafts)

theorem completeDeferred (h : QuietBookkeeping R) (s : Instrumentor P) (operation : DeferredHandle)
    (pipelines : List PipelineHandle) : R s (s.completeDeferred operation pipelines).2 :=
  h.trans (h.note s _ _ _) (foldl_related h.refl h.trans
    (fun s (recording : Recording) ↦ h.recordAll recording.register s recording.drafts pipelines)
    _ _)

theorem pipelineDestroyed (h : QuietBookkeeping R) (s : Instrumentor P)
    (pipeline : PipelineHandle) : R s (s.pipelineDestroyed pipeline) := by
  simp only [Instrumentor.pipelineDestroyed]
  split
  · exact h.note s _ _ _
  · exact h.trans (h.note s _ _ _) (h.toReleases.release _ _)

end QuietBookkeeping

/-- A relation between two states that is kept by all that is done with created pipelines, whatever
is recorded in the log. -/
structure Bookkeeping (R : Instrumentor P → Instrumentor P → Prop) : Prop extends Releases R where
  note : ∀ (s : Instrumentor P) log registry pipelines deferred,
    R s { s with log, registry, pipelines, deferred }

/-- What is kept whatever is recorded is kept. -/
theorem Bookkeeping.quietly {R : Instrumentor P → Instrumentor P → Prop} (h : Bookkeeping R) :
    QuietBookkeeping R :=
  { h with
    note := fun s ↦ h.note s s.log
    record := fun s entry _ ↦ h.note s (s.log ++ [entry]) s.registry s.pipelines s.deferred }

/-- That two states differ at most in what was logged, in the device, and in what is known of
pipelines: those that are registered or recorded, and those that wait. -/
def OnlyRecords (s t : Instrumentor P) : Prop :=
  ∃ log device registry pipelines deferred,
    t = { s with log, device, registry, pipelines, deferred }

namespace OnlyRecords

theorem bookkeeping : Bookkeeping (P := P) OnlyRecords where
  refl _ := ⟨_, _, _, _, _, rfl⟩
  trans := by
    rintro s t u ⟨log, device, registry, pipelines, deferred, rfl⟩
      ⟨log', device', registry', pipelines', deferred', rfl⟩
    exact ⟨log', device', registry', pipelines', deferred', rfl⟩
  note _ _ _ _ _ := ⟨_, _, _, _, _, rfl⟩
  destroyModule _ _ := ⟨_, _, _, _, _, rfl⟩
  destroyLibrary _ _ := ⟨_, _, _, _, _, rfl⟩

theorem sameSupplies {s t : Instrumentor P} (h : OnlyRecords s t) : SameSupplies s t := by
  obtain ⟨log, device, registry, pipelines, deferred, rfl⟩ := h
  exact ⟨rfl, rfl, rfl, rfl⟩

end OnlyRecords

/-! ### Reports -/

/-- A relation between two states that is kept where something is reported, to the log or to the
application, and where instrumentation is switched off. -/
structure Notes (R : Instrumentor P → Instrumentor P → Prop) : Prop where
  refl : ∀ s, R s s
  trans : ∀ {s t u}, R s t → R t u → R s u
  warn : ∀ (s : Instrumentor P) location message, R s (s.warn location message)
  internalError : ∀ (s : Instrumentor P) location message, R s (s.internalError location message)
  message : ∀ (s : Instrumentor P) violation names, R s (s.message violation names).2

/-- That two states differ at most in what was logged, in whether instrumentation is switched on,
and in the modules for which the application has asked for it. -/
def OnlyReports (s t : Instrumentor P) : Prop :=
  ∃ log subsystem selectedModules, t = { s with log, subsystem, selectedModules } ∧
    subsystem.settings = s.subsystem.settings

namespace OnlyReports

theorem refl (s : Instrumentor P) : OnlyReports s s := ⟨_, _, _, rfl, rfl⟩

theorem trans {s t u : Instrumentor P} (hst : OnlyReports s t) (htu : OnlyReports t u) :
    OnlyReports s u := by
  obtain ⟨log, subsystem, selectedModules, rfl, hsettings⟩ := hst
  obtain ⟨log', subsystem', selectedModules', rfl, hsettings'⟩ := htu
  exact ⟨log', subsystem', selectedModules', rfl, hsettings'.trans hsettings⟩

theorem notes : Notes (P := P) OnlyReports where
  refl := refl
  trans := trans
  warn _ _ _ := ⟨_, _, _, rfl, rfl⟩
  internalError _ _ _ := ⟨_, _, _, rfl, rfl⟩
  message _ _ _ := ⟨_, _, _, rfl, rfl⟩

theorem sameHoldings {s t : Instrumentor P} (h : OnlyReports s t) : SameHoldings s t := by
  obtain ⟨log, subsystem, selectedModules, rfl, hsettings⟩ := h
  exact ⟨hsettings, rfl, rfl, rfl, rfl⟩

theorem sameSupplies {s t : Instrumentor P} (h : OnlyReports s t) : SameSupplies s t := by
  obtain ⟨log, subsystem, selectedModules, rfl, hsettings⟩ := h
  exact ⟨hsettings, rfl, rfl, rfl⟩

end OnlyReports

/-! ### Setups -/

/-- A relation between two states that is kept where layouts are destroyed. -/
structure Clears (R : Instrumentor P → Instrumentor P → Prop) : Prop where
  refl : ∀ s, R s s
  trans : ∀ {s t u}, R s t → R t u → R s u
  destroySetLayout : ∀ s layout, R s (s.destroySetLayout layout)
  destroyPipelineLayout : ∀ s layout, R s (s.destroyPipelineLayout layout)

/-- A teardown destroys what is set up on the device, and forgets it and the instrumented code. -/
theorem Clears.tearDownDevice {R : Instrumentor P → Instrumentor P → Prop} (h : Clears R)
    (hforgotten : ∀ s : Instrumentor P, R s { s with resources := none, cache := .empty })
    (s : Instrumentor P) : R s s.tearDownDevice := by
  unfold Instrumentor.tearDownDevice
  cases s.resources with
  | none => exact hforgotten s
  | some resources =>
    have hlayout := h.destroyPipelineLayout s resources.pipelineLayout
    have hset := h.trans hlayout (h.destroySetLayout _ resources.reservation.instrumentation)
    have hcleared := h.trans hset (h.destroySetLayout _ resources.reservation.placeholder)
    exact h.trans hcleared (hforgotten _)

/-- A relation between two states that is kept by all that is done to reserve a slot on a device:
layouts are created and destroyed, and instrumentation is switched off if this fails. -/
structure Reserves (R : Instrumentor P → Instrumentor P → Prop) : Prop extends Clears R where
  createSetLayout : ∀ s bindings, R s (s.createSetLayout bindings).2
  createPipelineLayout : ∀ s layouts, R s (s.createPipelineLayout layouts).2
  internalError : ∀ s location message, R s (s.internalError location message)

namespace Reserves

variable {R : Instrumentor P → Instrumentor P → Prop}

theorem reserve (h : Reserves R) (s : Instrumentor P) (slot : UInt32) :
    R s (s.reserve slot).2 := by
  have hfirst := h.createSetLayout s instrumentationBindings
  have hsecond := h.trans hfirst (h.createSetLayout _ [])
  unfold Instrumentor.reserve
  simp only []
  split
  · exact h.trans hfirst (h.internalError _ _ _)
  · next instrumentation _ =>
    split
    · have hcleared := h.trans hsecond (h.destroySetLayout _ instrumentation)
      exact h.trans hcleared (h.internalError _ _ _)
    · next placeholder _ =>
      have hthird := h.trans hsecond (h.createPipelineLayout _
        (Reservation.internalLayouts ⟨slot, placeholder, instrumentation⟩))
      split
      · have hone := h.trans hthird (h.destroySetLayout _ placeholder)
        have hboth := h.trans hone (h.destroySetLayout _ instrumentation)
        exact h.trans hboth (h.internalError _ _ _)
      · exact hthird

/-- Assumes: a relation that is also kept when the resources are there, which is noted in the
log. -/
theorem setUpDevice (h : Reserves R)
    (hready : ∀ (s : Instrumentor P) resources entry, entry.reportsInternalError = false →
      R s (({ s with resources := some resources } : Instrumentor P).record entry))
    (s : Instrumentor P) (capabilities : Capabilities) : R s (s.setUpDevice capabilities).2 := by
  unfold Instrumentor.setUpDevice
  split
  · exact h.refl s
  · split
    · exact h.internalError s _ _
    · split
      · exact h.internalError s _ _
      · next slot _ =>
        have hreserved := h.reserve s slot
        simp only []
        split
        · exact hreserved
        · exact h.trans hreserved (hready _ _ _ (reportsInternalError_plain _ _ _))

end Reserves

/-- That two states differ at most in what was logged, in the device and what is set up on it, and
in whether instrumentation is switched on. -/
def OnlyDevice (s t : Instrumentor P) : Prop :=
  ∃ log device subsystem resources, t = { s with log, device, subsystem, resources } ∧
    subsystem.settings = s.subsystem.settings

namespace OnlyDevice

theorem reserves : Reserves (P := P) OnlyDevice where
  refl _ := ⟨_, _, _, _, rfl, rfl⟩
  trans := by
    rintro s t u ⟨log, device, subsystem, resources, rfl, hsettings⟩
      ⟨log', device', subsystem', resources', rfl, hsettings'⟩
    exact ⟨log', device', subsystem', resources', rfl, hsettings'.trans hsettings⟩
  destroySetLayout _ _ := ⟨_, _, _, _, rfl, rfl⟩
  destroyPipelineLayout _ _ := ⟨_, _, _, _, rfl, rfl⟩
  createSetLayout _ _ := ⟨_, _, _, _, rfl, rfl⟩
  createPipelineLayout _ _ := ⟨_, _, _, _, rfl, rfl⟩
  internalError _ _ _ := ⟨_, _, _, _, rfl, rfl⟩

theorem setUpDevice (s : Instrumentor P) (capabilities : Capabilities) :
    OnlyDevice s (s.setUpDevice capabilities).2 :=
  reserves.setUpDevice (fun _ _ _ _ ↦ ⟨_, _, _, _, rfl, rfl⟩) s capabilities

theorem sameHoldings {s t : Instrumentor P} (h : OnlyDevice s t) : SameHoldings s t := by
  obtain ⟨log, device, subsystem, resources, rfl, hsettings⟩ := h
  exact ⟨hsettings, rfl, rfl, rfl, rfl⟩

end OnlyDevice

/-- A teardown concerns the log, the device and what is set up on it, and the cache alone. -/
theorem exists_tearDownDevice_eq (s : Instrumentor P) : ∃ log device,
    s.tearDownDevice = { s with log, device, resources := none, cache := .empty } := by
  unfold tearDownDevice
  split <;> exact ⟨_, _, rfl⟩

/-- Where instrumentation is switched off no device can be set up. -/
theorem setUpDevice_of_inactive {s : Instrumentor P} (hoff : s.subsystem.active = false)
    (capabilities : Capabilities) :
    s.setUpDevice capabilities = (.error .subsystemDisabled, s) := by
  unfold setUpDevice
  rw [hoff, Bool.not_false, if_pos rfl]

/-- Assumes: a setup that succeeds. The objects for the reserved slot were created, and the device
is set up with them. -/
theorem exists_reserve_of_setUpDevice {s : Instrumentor P} {capabilities : Capabilities}
    (h : (s.setUpDevice capabilities).1 = .ok ()) :
    ∃ slot reservation layout entry,
      ShaderGuard.reservedSlot capabilities.maxBoundDescriptorSets = .ok slot ∧
      (s.reserve slot).1 = .ok (reservation, layout) ∧
      (s.setUpDevice capabilities).2 = ({ (s.reserve slot).2 with
        resources := some ⟨capabilities, reservation, layout⟩ } : Instrumentor P).record entry := by
  unfold setUpDevice at h ⊢
  by_cases hactive : (!s.subsystem.active) = true
  · rw [if_pos hactive] at h
    cases h
  · rw [if_neg hactive] at h ⊢
    cases hmissing : capabilities.missingFeatures with
    | cons feature _ =>
      simp only [hmissing] at h
      cases h
    | nil =>
      simp only [hmissing] at h ⊢
      cases hslot : ShaderGuard.reservedSlot capabilities.maxBoundDescriptorSets with
      | error fault =>
        simp only [hslot] at h
        cases h
      | ok slot =>
        simp only [hslot] at h ⊢
        cases hreserved : (s.reserve slot).1 with
        | error fault =>
          simp only [hreserved] at h
          cases h
        | ok reserved => exact ⟨slot, reserved.1, reserved.2, _, rfl, hreserved, rfl⟩

end Instrumentor

/-! ### Hooks -/

/-- Whether a hook concerns neither the device nor the creation or destruction of an object that is
instrumented. -/
def Hook.reportsOnly : Hook → Bool
  | .advertise _ | .patchPipelineLayout _ | .pipelineLayoutCreated _ _ | .moduleCreated _ _
  | .waitEvents _ _ _ | .message _ _ | .internalError _ _ => true
  | _ => false

/-- Whether a hook neither records an object nor precedes a destruction. -/
def Hook.leavesHoldings : Hook → Bool
  | .moduleDestroyed _ | .pipelinesCreated _ _ | .rayTracingPipelinesCreated _ _ _ _
  | .trackDeferred _ | .forgetDeferred _ | .completeDeferred _ _ | .pipelineDestroyed _
  | .shaderObjectsCreated _ _ | .shaderObjectDestroyed _ => false
  | _ => true

/-- Whether a hook neither concerns the device nor precedes a creation of shaders. -/
def Hook.leavesSupplies : Hook → Bool
  | .setUpDevice _ | .tearDownDevice | .preparePipelines _ _ | .prepareShaderObjects _ _ => false
  | _ => true

/-- Whether a hook follows a creation of pipelines, has to do with a deferred operation, or precedes
the destruction of a pipeline. -/
def Hook.recordsOnly : Hook → Bool
  | .pipelinesCreated _ _ | .rayTracingPipelinesCreated _ _ _ _ | .trackDeferred _
  | .forgetDeferred _ | .completeDeferred _ _ | .pipelineDestroyed _ => true
  | _ => false

namespace Session

open Instrumentor

/-- Assumes: a relation that is kept where something is reported. Hooks that concern no object keep
it, apart from those that follow the creation of a module. -/
theorem notes_step {R : Instrumentor P → Instrumentor P → Prop} (h : Notes R) (t : Session P)
    {hook : Hook} (hreports : hook.reportsOnly = true)
    (hmodule : ∀ module selected, hook ≠ .moduleCreated module selected) :
    R t.state (t.step hook).state := by
  cases hook with
  | advertise limit =>
    exact foldl_related h.refl h.trans (fun s text ↦ h.warn s _ text) _ t.state
  | patchPipelineLayout layouts =>
    simp only [step, become, patchPipelineLayout]
    split
    · exact h.refl t.state
    · split
      · split
        · exact h.refl t.state
        · exact h.warn t.state _ _
      · exact h.refl t.state
  | pipelineLayoutCreated patched failed =>
    simp only [step, become, pipelineLayoutCreated]
    split
    · exact h.internalError t.state _ _
    · exact h.refl t.state
  | moduleCreated module selected => exact absurd rfl (hmodule module selected)
  | waitEvents commandBuffer stages location =>
    simp only [step, become, waitEvents]
    split
    · exact h.internalError t.state _ _
    · exact h.refl t.state
  | message violation names => exact h.message t.state violation names
  | internalError location message => exact h.internalError t.state location message
  | _ => cases hreports

/-- What the hooks do that concern no object. -/
theorem onlyReports_step (t : Session P) {hook : Hook} (h : hook.reportsOnly = true) :
    OnlyReports t.state (t.step hook).state := by
  by_cases hmodule : ∃ module selected, hook = .moduleCreated module selected
  · obtain ⟨module, selected, rfl⟩ := hmodule
    simp only [step, become, moduleCreated]
    split
    · exact ⟨_, _, _, rfl, rfl⟩
    · exact .refl t.state
  · exact notes_step OnlyReports.notes t h fun module selected heq ↦
      hmodule ⟨module, selected, heq⟩

/-- What the hooks do that concern created pipelines. -/
theorem quietBookkeeping_step {R : Instrumentor P → Instrumentor P → Prop}
    (h : QuietBookkeeping R) (t : Session P) {hook : Hook} (hrecords : hook.recordsOnly = true) :
    R t.state (t.step hook).state := by
  cases hook with
  | pipelinesCreated creation pipelines =>
    simp only [step, finishPipelines]
    split
    · exact h.refl t.state
    · exact h.recordAll _ t.state _ pipelines
  | rayTracingPipelinesCreated creation operation result pipelines =>
    simp only [step, finishPipelines]
    split
    · exact h.refl t.state
    · exact h.rayTracingPipelinesCreated t.state _ operation result pipelines
  | trackDeferred operation => exact h.note t.state _ _ _
  | forgetDeferred operation => exact h.note t.state _ _ _
  | completeDeferred operation pipelines => exact h.completeDeferred t.state operation pipelines
  | pipelineDestroyed pipeline => exact h.pipelineDestroyed t.state pipeline
  | _ => cases hrecords

theorem bookkeeping_step {R : Instrumentor P → Instrumentor P → Prop} (h : Bookkeeping R)
    (t : Session P) {hook : Hook} (hrecords : hook.recordsOnly = true) :
    R t.state (t.step hook).state :=
  quietBookkeeping_step h.quietly t hrecords

theorem onlyRecords_step (t : Session P) {hook : Hook} (h : hook.recordsOnly = true) :
    OnlyRecords t.state (t.step hook).state :=
  bookkeeping_step OnlyRecords.bookkeeping t h

/-- Hooks that neither record an object nor precede a destruction leave the holdings alone. -/
theorem sameHoldings_step (t : Session P) {hook : Hook} (h : hook.leavesHoldings = true) :
    SameHoldings t.state (t.step hook).state := by
  by_cases hreports : hook.reportsOnly = true
  · exact (onlyReports_step t hreports).sameHoldings
  · cases hook with
    | setUpDevice capabilities => exact (OnlyDevice.setUpDevice t.state capabilities).sameHoldings
    | tearDownDevice =>
      obtain ⟨log, device, hafter⟩ := exists_tearDownDevice_eq t.state
      simp only [step, become, hafter]
      exact ⟨rfl, rfl, rfl, rfl, rfl⟩
    | preparePipelines infos location =>
      exact SameHoldings.rewrites.preparePipelines t.state infos location
    | prepareShaderObjects infos call =>
      exact SameHoldings.rewrites.prepareShaderObjects t.state infos call
    | _ => first | (cases h; done) | exact absurd rfl hreports

/-- Hooks that neither concern the device nor precede a creation of shaders leave the supplies
alone. -/
theorem sameSupplies_step (t : Session P) {hook : Hook} (h : hook.leavesSupplies = true) :
    SameSupplies t.state (t.step hook).state := by
  by_cases hreports : hook.reportsOnly = true
  · exact (onlyReports_step t hreports).sameSupplies
  by_cases hrecords : hook.recordsOnly = true
  · exact (onlyRecords_step t hrecords).sameSupplies
  · cases hook with
    | moduleDestroyed module => exact ⟨rfl, rfl, rfl, rfl⟩
    | shaderObjectsCreated creation objects =>
      simp only [step, finishShaderObjects]
      split
      · exact .refl t.state
      · next drafts _ =>
        obtain ⟨registry, shaderObjects, hafter⟩ :=
          exists_shaderObjectsCreated_eq t.state drafts objects
        rw [hafter]
        exact ⟨rfl, rfl, rfl, rfl⟩
    | shaderObjectDestroyed object => exact ⟨rfl, rfl, rfl, rfl⟩
    | _ => first | (cases h; done) | exact absurd rfl hreports | exact absurd rfl hrecords

theorem settings_step (t : Session P) (hook : Hook) :
    (t.step hook).state.settings = t.state.settings := by
  by_cases h : hook.leavesHoldings = true
  · exact (sameHoldings_step t h).settings
  · refine (sameSupplies_step t ?_).settings
    cases hook <;> first | rfl | exact absurd rfl h

/-- The settings stay as they are. -/
theorem settings_run (t : Session P) (hooks : List Hook) :
    (t.run hooks).state.settings = t.state.settings := by
  induction hooks generalizing t with
  | nil => rfl
  | cons hook rest ih => rw [run_cons, ih, settings_step]

end Session

end ShaderGuard
