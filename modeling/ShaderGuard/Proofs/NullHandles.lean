import ShaderGuard.Proofs.CounterIdentifiers
import ShaderGuard.Proofs.HeldModules

/-!
# Destroying null handles

The null handle names no object, and no object is recorded under it: the table of pipelines and the
set of shader objects never have it (`Instrumentor.NoNulls`). Destroying a null handle thus creates,
destroys and forgets nothing of these. But the fields of an entry of the registry are null where
the entry has no owner of that kind (`Session.OwnedIn`), and an erasure by a null handle compares
them all the same: a null pipeline and a null module take the entries of all shader objects, and a
null shader object those of all pipelines (`Session.null_destruction_takes_unowned`).
`Session.lost_with_null_handle` has one of each.
-/

set_option autoImplicit false

namespace ShaderGuard

open Bytecode (ShaderId fingerprint)

variable {P : Platform}

/-! ### Erasures -/

namespace Registry

/-- Whether an entry is found in a registry. -/
def Has (registry : Registry) (shader : InstrumentedShader) : Prop :=
  ∃ id, registry.get? id = some shader

/-- Assumes: two tests that agree on what is found. They erase the same entries. -/
theorem eraseWhere_congr {registry : Registry} {first second : InstrumentedShader → Bool}
    (h : ∀ shader, registry.Has shader → first shader = second shader) :
    registry.eraseWhere first = registry.eraseWhere second := by
  refine Table.ext_get? fun id ↦ ?_
  rw [get?_eraseWhere, get?_eraseWhere]
  cases hfound : registry.get? id with
  | none => rfl
  | some shader =>
    have hagree : first shader = second shader := h shader ⟨id, hfound⟩
    simp only [Option.filter_some, hagree]

/-- An erasure changes nothing exactly if it accepts nothing of what is found. -/
theorem eraseWhere_eq_self_iff (registry : Registry) (test : InstrumentedShader → Bool) :
    registry.eraseWhere test = registry ↔
      ∀ shader, registry.Has shader → test shader = false := by
  constructor
  · rintro hsame shader ⟨id, hfound⟩
    have hkept : (registry.eraseWhere test).get? id = some shader := by rw [hsame, hfound]
    rw [get?_eraseWhere, Option.filter_eq_some_iff] at hkept
    simpa using hkept.2
  · intro hnone
    refine Table.ext_get? fun id ↦ ?_
    rw [get?_eraseWhere]
    cases hfound : registry.get? id with
    | none => rfl
    | some shader =>
      have hrefused : test shader = false := hnone shader ⟨id, hfound⟩
      simp only [Option.filter_some, hrefused, Bool.not_false, if_true]

end Registry

/-! ### Nothing is recorded under the null handle -/

namespace Instrumentor

/-- That nothing is recorded under a null handle. -/
structure NoNulls (s : Instrumentor P) : Prop where
  pipelines : s.pipelines.get? .null = none
  shaderObjects : s.shaderObjects.get? .null = none

namespace NoNulls

variable {s : Instrumentor P}

theorem of_sameHoldings {t : Instrumentor P} (h : s.NoNulls) (hsame : SameHoldings s t) :
    t.NoNulls := by
  constructor
  · rw [hsame.pipelines]
    exact h.pipelines
  · rw [hsame.shaderObjects]
    exact h.shaderObjects

theorem recordPipeline (h : s.NoNulls) (registering : Bool) (draft : PipelineDraft)
    (pipeline : PipelineHandle) : (recordPipeline registering s draft pipeline).NoNulls := by
  rcases recordPipeline_cases registering s draft pipeline with
    ⟨-, hafter⟩ | ⟨hgiven, registry, objects, -, hafter | ⟨-, hafter⟩⟩
  · rw [hafter]
    exact h.of_sameHoldings (SameHoldings.releases.release s draft.objects)
  · have hne : pipeline ≠ .null := by
      rintro rfl
      cases hgiven
    rw [hafter]
    exact ⟨(Table.get?_insert_of_ne s.pipelines objects hne).trans h.pipelines, h.shaderObjects⟩
  · rw [hafter]
    exact ⟨h.pipelines, h.shaderObjects⟩

theorem recordAll (h : s.NoNulls) (registering : Bool) (drafts : List PipelineDraft)
    (pipelines : List PipelineHandle) : (recordAll registering s drafts pipelines).NoNulls := by
  induction drafts generalizing s pipelines with
  | nil => exact h
  | cons draft rest ih => exact ih (h.recordPipeline registering draft _) pipelines.tail

theorem completeDeferred (h : s.NoNulls) (recordings : List Recording)
    (pipelines : List PipelineHandle) :
    (recordings.foldl (fun s recording ↦
      Instrumentor.recordAll recording.register s recording.drafts pipelines) s).NoNulls := by
  induction recordings generalizing s with
  | nil => exact h
  | cons recording rest ih => exact ih (h.recordAll recording.register recording.drafts pipelines)

theorem recordShaderObject (h : s.NoNulls) (draft : ShaderObjectDraft)
    (object : ShaderObjectHandle) : (s.recordShaderObject draft object).NoNulls := by
  unfold Instrumentor.recordShaderObject
  cases draft.made with
  | none => exact h
  | some made =>
    by_cases hnull : object.isNull = true
    · simp only [if_pos hnull]
      exact h
    · have hne : object ≠ .null := fun heq ↦ hnull ((Handle.isNull_iff object).mpr heq)
      simp only [if_neg hnull]
      exact ⟨h.pipelines,
        (Table.get?_insert_of_ne s.shaderObjects () hne).trans h.shaderObjects⟩

theorem recordShaderObjects (h : s.NoNulls) (drafts : List ShaderObjectDraft)
    (objects : List ShaderObjectHandle) : (s.recordShaderObjects drafts objects).NoNulls := by
  induction drafts generalizing s objects with
  | nil => exact h
  | cons draft rest ih => exact ih (h.recordShaderObject draft _) objects.tail

theorem rayTracingPipelinesCreated (h : s.NoNulls) (drafts : List PipelineDraft)
    (operation : DeferredHandle) (result : CreationResult) (pipelines : List PipelineHandle) :
    (s.rayTracingPipelinesCreated drafts operation result pipelines).NoNulls := by
  rcases s.rayTracingPipelinesCreated_cases drafts operation result pipelines with
    ⟨-, hafter⟩ | ⟨-, -, deferred, -, hafter⟩ | ⟨-, -, hafter⟩ <;> rw [hafter]
  · exact h.recordAll s.isInstrumenting drafts pipelines
  · exact ⟨h.pipelines, h.shaderObjects⟩
  · have hlogged (entry : Entry) : SameHoldings s (s.record entry) := ⟨rfl, rfl, rfl, rfl, rfl⟩
    exact h.of_sameHoldings ((hlogged _).trans (SameHoldings.releases.releaseAll _ drafts))

theorem pipelineDestroyed (h : s.NoNulls) (pipeline : PipelineHandle) :
    (s.pipelineDestroyed pipeline).NoNulls := by
  have herased : (s.pipelines.erase pipeline).get? .null = none := by
    rw [Table.get?_erase, h.pipelines, ite_self]
  have hforgotten : NoNulls { s with
      registry := (s.registry.erasePipeline pipeline).2
      pipelines := s.pipelines.erase pipeline } := ⟨herased, h.shaderObjects⟩
  unfold Instrumentor.pipelineDestroyed
  split
  · exact hforgotten
  · exact hforgotten.of_sameHoldings (SameHoldings.releases.release _ _)

theorem shaderObjectDestroyed (h : s.NoNulls) (object : ShaderObjectHandle) :
    (s.shaderObjectDestroyed object).NoNulls := by
  have herased : (s.shaderObjects.erase object).get? .null = none := by
    rw [Table.get?_erase, h.shaderObjects, ite_self]
  exact ⟨h.pipelines, herased⟩

end NoNulls

end Instrumentor

namespace Session

open Instrumentor

/-- No hook records anything under a null handle. -/
theorem noNulls_step {t : Session P} (h : t.state.NoNulls) (hook : Hook) :
    (t.step hook).state.NoNulls := by
  by_cases hholdings : hook.leavesHoldings = true
  · exact h.of_sameHoldings (sameHoldings_step t hholdings)
  · cases hook with
    | moduleDestroyed module => exact ⟨h.pipelines, h.shaderObjects⟩
    | pipelineDestroyed pipeline => exact h.pipelineDestroyed pipeline
    | shaderObjectDestroyed object => exact h.shaderObjectDestroyed object
    | trackDeferred operation => exact ⟨h.pipelines, h.shaderObjects⟩
    | forgetDeferred operation => exact ⟨h.pipelines, h.shaderObjects⟩
    | pipelinesCreated creation pipelines =>
      simp only [step, finishPipelines]
      split
      · exact h
      · exact h.recordAll t.state.isInstrumenting _ pipelines
    | rayTracingPipelinesCreated creation operation result pipelines =>
      simp only [step, finishPipelines]
      split
      · exact h
      · exact h.rayTracingPipelinesCreated _ operation result pipelines
    | completeDeferred operation pipelines =>
      have htaken : NoNulls { t.state with
          deferred := (DeferredQueue.pop t.state.deferred operation).2 } :=
        ⟨h.pipelines, h.shaderObjects⟩
      exact htaken.completeDeferred _ pipelines
    | shaderObjectsCreated creation objects =>
      simp only [step, finishShaderObjects, shaderObjectsCreated]
      split
      · exact h
      · split
        · exact h.recordShaderObjects _ objects
        · exact h
    | _ => exact absurd rfl hholdings

theorem noNulls_run {t : Session P} (h : t.state.NoNulls) (hooks : List Hook) :
    (t.run hooks).state.NoNulls := by
  induction hooks generalizing t with
  | nil => exact h
  | cons hook rest ih => exact ih (noNulls_step h hook)

/-! ### What owns entries -/

/-- That a library is linked into a pipeline of a run under the null handle. -/
def LinksNull (hooks : List Hook) : Prop :=
  ∃ infos location, .preparePipelines infos location ∈ hooks ∧
    ∃ info ∈ infos, ∃ library ∈ info.libraries, library.handle = .null

/-- What an entry of the registry names: the pipeline or the library of a stage and its module, or a
shader object. The other fields are null. -/
inductive OwnedIn (hooks : List Hook) (shader : InstrumentedShader) : Prop where
  | stage (hobject : shader.object = .null) (hmodule : shader.module ≠ .null)
      (hpipeline : shader.pipeline = .null → LinksNull hooks)
  | object (hobject : shader.object ≠ .null) (hmodule : shader.module = .null)
      (hpipeline : shader.pipeline = .null)

/-- A stage of a library comes with the handle of the library. -/
theorem exists_library_of_mem_allStages {info : PipelineInfo}
    {owned : Option PipelineHandle × ShaderStage} (h : owned ∈ info.allStages)
    {handle : PipelineHandle} (hlibrary : owned.1 = some handle) :
    ∃ library ∈ info.libraries, library.handle = handle := by
  rcases List.mem_append.mp h with hstage | hstage
  · obtain ⟨library, hlinked, hstage⟩ := List.mem_flatMap.mp hstage
    obtain ⟨stage, -, rfl⟩ := List.mem_map.mp hstage
    exact ⟨library, hlinked, Option.some.inj hlibrary⟩
  · obtain ⟨stage, -, rfl⟩ := List.mem_map.mp hstage
    cases hlibrary

/-- The registration of an instrumented stage names its module, and it names a pipeline or a library
that there is, unless the application has linked the null handle. -/
theorem ownedIn_of_record {hooks : List Hook} {draft : PipelineDraft} {record : StageRecord}
    {pipeline : PipelineHandle} {registration : Registration}
    (hdraft : ∃ infos location, .preparePipelines infos location ∈ hooks ∧
      ∃ info ∈ infos, draft.Describes info)
    (hrecord : record ∈ draft.records) (hgiven : pipeline.isNull = false)
    (hregistration : record.registration? pipeline = some registration) :
    OwnedIn hooks registration.shader := by
  obtain ⟨infos, location, hhook, info, hinfo, rfl | hdescribes⟩ := hdraft
  · exact absurd hrecord List.not_mem_nil
  obtain ⟨owned, howned, hregisters⟩ := exists_mem_of_forall₂ hdescribes hrecord
  cases hid : record.shaderId with
  | none =>
    unfold StageRecord.registration? at hregistration
    rw [hid] at hregistration
    cases hregistration
  | some id =>
    obtain ⟨code, -, hstage⟩ := hregisters id hid
    rw [hstage pipeline] at hregistration
    obtain rfl := Option.some.inj hregistration
    refine .stage rfl ?_ fun hnull ↦ ?_
    · show (if owned.2.module.isNull then none else some owned.2.module).getD
        Handle.inlinedStage ≠ .null
      cases hmodule : owned.2.module.isNull with
      | true =>
        show (Handle.inlinedStage : ModuleHandle) ≠ .null
        decide
      | false =>
        intro heq
        have hnull : owned.2.module = .null := heq
        rw [hnull] at hmodule
        cases hmodule
    · have howner : owned.1.getD pipeline = .null := hnull
      cases hlibrary : owned.1 with
      | none =>
        rw [hlibrary] at howner
        rw [Option.getD_none.symm.trans howner] at hgiven
        cases hgiven
      | some handle =>
        rw [hlibrary] at howner
        obtain ⟨library, hlinked, hhandle⟩ := exists_library_of_mem_allStages howned hlibrary
        exact ⟨infos, location, hhook, info, hinfo, library, hlinked, hhandle.trans howner⟩

/-- Whatever is registered in a run is owned. -/
theorem ownedIn_of_mem_history {t : Session P} (hnow : t.drafts = []) {hooks : List Hook}
    {registration : Registration}
    (h : .registered registration ∈ collect registryEvents t hooks) :
    OwnedIn hooks registration.shader := by
  rcases origin_of_mem_history h with
    ⟨draft, hdraft, record, hrecord, pipeline, hgiven, hregistration⟩ |
    ⟨draft, -, made, object, -, hgiven, rfl⟩
  · exact ownedIn_of_record (exists_describes_of_mem_handedOver hnow hdraft) hrecord hgiven
      hregistration
  · refine .object (fun hnull ↦ ?_) rfl rfl
    have hobject : object = .null := hnull
    rw [hobject] at hgiven
    cases hgiven

/-- Whatever is found behind a run is owned. -/
theorem ownedIn_of_has (settings : Settings) (device : P.DeviceState) (tools : P.ToolState)
    (storage : P.StorageState) (hooks : List Hook) {shader : InstrumentedShader}
    (h : ((start settings device tools storage : Session P).run hooks).state.registry.Has shader) :
    OwnedIn hooks shader := by
  obtain ⟨id, hfound⟩ := h
  rw [registry_run] at hfound
  obtain ⟨registration, hstands, -, rfl⟩ := (get?_replay_eq_some_iff _ id shader).mp hfound
  exact ownedIn_of_mem_history rfl hstands.mem

end Session

/-! ### What destroying null handles does -/

namespace Instrumentor

theorem decide_eq_null {kind : ObjectKind} (handle : Handle kind) :
    decide (handle = .null) = handle.isNull := by
  rw [Bool.eq_iff_iff, decide_eq_true_iff, Handle.isNull_iff]

namespace NoNulls

variable {s : Instrumentor P}

/-- A null pipeline has no objects, and is forgotten nowhere but in the registry. -/
theorem pipelineDestroyed_null (h : s.NoNulls) :
    s.pipelineDestroyed .null =
      { s with registry := s.registry.eraseWhere fun shader ↦ shader.pipeline.isNull } := by
  have hregistry : (s.registry.erasePipeline .null).2 =
      s.registry.eraseWhere fun shader ↦ shader.pipeline.isNull :=
    Registry.eraseWhere_congr fun shader _ ↦ decide_eq_null shader.pipeline
  unfold Instrumentor.pipelineDestroyed
  rw [h.pipelines]
  simp only [hregistry, Table.erase_of_get?_eq_none h.pipelines]

/-- A null shader object is forgotten nowhere but in the registry. -/
theorem shaderObjectDestroyed_null (h : s.NoNulls) :
    s.shaderObjectDestroyed .null =
      { s with registry := s.registry.eraseWhere fun shader ↦ shader.object.isNull } := by
  have hregistry : (s.registry.eraseObject .null).2 =
      s.registry.eraseWhere fun shader ↦ shader.object.isNull :=
    Registry.eraseWhere_congr fun shader _ ↦ decide_eq_null shader.object
  unfold Instrumentor.shaderObjectDestroyed
  rw [hregistry, Table.erase_of_get?_eq_none h.shaderObjects]

end NoNulls

end Instrumentor

namespace Session

open Instrumentor

/-- Of owned entries those without a module are those of shader objects. -/
theorem OwnedIn.module_isNull {hooks : List Hook} {shader : InstrumentedShader}
    (h : OwnedIn hooks shader) : decide (shader.module = .null) = !shader.object.isNull := by
  cases h with
  | stage hobject hmodule _ =>
    rw [hobject, decide_eq_false hmodule]
    rfl
  | object hobject hmodule _ =>
    have hgiven : ¬ shader.object.isNull = true := fun h ↦ hobject ((Handle.isNull_iff _).mp h)
    rw [hmodule, Bool.eq_false_iff.mpr hgiven]
    rfl

/-- Destroying null handles concerns the registry alone, and the set of modules that were asked for.
In every state that the hooks can reach a null pipeline takes the entries without a pipeline, which
are those of shader objects unless the application has linked the null handle; a null module takes
those of all shader objects; and a null shader object those of all stages of pipelines. The registry
stays as it is exactly if it has no such entry. -/
theorem null_destruction_takes_unowned (settings : Settings) (device : P.DeviceState)
    (tools : P.ToolState) (storage : P.StorageState) (hooks : List Hook) :
    let s := ((start settings device tools storage : Session P).run hooks).state
    (∀ shader, s.registry.Has shader → OwnedIn hooks shader) ∧
      (s.pipelineDestroyed .null =
          { s with registry := s.registry.eraseWhere fun shader ↦ shader.pipeline.isNull } ∧
        ((s.pipelineDestroyed .null).registry = s.registry ↔
          ∀ shader, s.registry.Has shader → shader.pipeline.isNull = false)) ∧
      (s.moduleDestroyed .null =
          { s with
            registry := s.registry.eraseWhere fun shader ↦ !shader.object.isNull
            selectedModules := s.selectedModules.erase .null } ∧
        ((s.moduleDestroyed .null).registry = s.registry ↔
          ∀ shader, s.registry.Has shader → shader.object.isNull = true)) ∧
      (s.shaderObjectDestroyed .null =
          { s with registry := s.registry.eraseWhere fun shader ↦ shader.object.isNull } ∧
        ((s.shaderObjectDestroyed .null).registry = s.registry ↔
          ∀ shader, s.registry.Has shader → shader.object.isNull = false)) := by
  intro s
  have howned : ∀ shader, s.registry.Has shader → OwnedIn hooks shader :=
    fun shader h ↦ ownedIn_of_has settings device tools storage hooks h
  have hnulls : s.NoNulls := noNulls_run ⟨rfl, rfl⟩ hooks
  have hmodule : (s.registry.eraseModule .null).2 =
      s.registry.eraseWhere fun shader ↦ !shader.object.isNull :=
    Registry.eraseWhere_congr fun shader h ↦ (howned shader h).module_isNull
  refine ⟨howned, ⟨hnulls.pipelineDestroyed_null, ?_⟩, ⟨?_, ?_⟩,
    ⟨hnulls.shaderObjectDestroyed_null, ?_⟩⟩
  · rw [hnulls.pipelineDestroyed_null]
    exact Registry.eraseWhere_eq_self_iff s.registry fun shader ↦ shader.pipeline.isNull
  · unfold moduleDestroyed
    rw [hmodule]
  · unfold moduleDestroyed
    rw [hmodule, Registry.eraseWhere_eq_self_iff]
    simp only [Bool.not_eq_false']
  · rw [hnulls.shaderObjectDestroyed_null]
    exact Registry.eraseWhere_eq_self_iff s.registry fun shader ↦ shader.object.isNull

/-- A shader object with a header of its own and an access to a descriptor array. -/
def guardedObject : ShaderObjectInfo :=
  { stages := .empty
    code := [0x07230203, 0x10300, 0, 17, 0, Simulation.arrayAccess]
    setLayouts := []
    selected := false
    entryPoint := "main" }

/-- A compute pipeline and a shader object are alive. Destroying a null pipeline or a null module
loses the identifier of the shader object, and destroying a null shader object that of the
pipeline. -/
theorem lost_with_null_handle :
    let first : Session (Simulation.platform false {}) := start {} {} [] []
    let s := (first.run [.setUpDevice {},
      .preparePipelines [guardedCompute] "vkCreateComputePipelines", .pipelinesCreated 0 [⟨7⟩],
      .prepareShaderObjects [guardedObject] "vkCreateShadersEXT",
      .shaderObjectsCreated 0 [⟨40⟩]]).state
    let stage := fingerprint guardedAccess
    let object := fingerprint guardedObject.code
    s.registry.contains stage = true ∧ s.registry.contains object = true ∧
      (s.pipelineDestroyed .null).registry.contains object = false ∧
      (s.moduleDestroyed .null).registry.contains object = false ∧
      (s.shaderObjectDestroyed .null).registry.contains stage = false := by
  decide +kernel

end Session

end ShaderGuard
