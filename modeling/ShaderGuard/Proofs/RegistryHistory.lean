import ShaderGuard.Proofs.DraftFlow
import ShaderGuard.Proofs.RegistryStore

/-!
# The history of the registry

What the registry holds is decided by what was registered and what was destroyed, in their order.
`Session.registryEvents` reads this history off the hooks: a stage is registered when its pipeline
is recorded, a shader object when it is posted, each with what the application knows it by. The
registry of a run is the replay of its history (`Session.registry_run`). The events of a history are
operations of the store, so an identifier is found exactly if the last registration under it stands
(`get?_replay_eq_some_iff`).
-/

set_option autoImplicit false

namespace ShaderGuard

open Bytecode (ShaderId)

/-! ### Registrations -/

/-- What is put into the registry. -/
inductive Registration where
  /-- An instrumented stage: the library that it belongs to or else the pipeline, the module that
  the application gave, unless the code stands in the stage itself, and the original code. -/
  | stage (id : ShaderId) (owner : PipelineHandle) (module : Option ModuleHandle) (code : Code)
  /-- A shader object with its instrumented code. -/
  | object (id : ShaderId) (object : ShaderObjectHandle) (code : Code)
  deriving DecidableEq

namespace Registration

/-- The identifier under which a registration is found. -/
def id : Registration → ShaderId
  | .stage id _ _ _ => id
  | .object id _ _ => id

/-- The entry of a registration. -/
def shader : Registration → InstrumentedShader
  | .stage _ owner module code =>
    { pipeline := owner, module := module.getD Handle.inlinedStage, object := .null, code }
  | .object _ handle code => { pipeline := .null, module := .null, object := handle, code }

/-- The identifier and the entry. -/
def entry (registration : Registration) : ShaderId × InstrumentedShader :=
  (registration.id, registration.shader)

/-- Whether a registration is that of a stage. -/
def isStage : Registration → Bool
  | .stage _ _ _ _ => true
  | .object _ _ _ => false

end Registration

/-- The registration of a stage when its pipeline is recorded, if the stage is instrumented. -/
def StageRecord.registration? (pipeline : PipelineHandle) (record : StageRecord) :
    Option Registration :=
  match record.shaderId, record.code with
  | some id, some code =>
    some (.stage id (record.library.getD pipeline)
      (if record.module.isNull && record.inlined then none else some record.module) code)
  | _, _ => none

theorem StageRecord.entry?_eq (pipeline : PipelineHandle) (record : StageRecord) :
    record.entry? pipeline = (record.registration? pipeline).map Registration.entry := by
  unfold entry? registration?
  cases record.shaderId with
  | none => rfl
  | some id =>
    cases record.code with
    | none => rfl
    | some code =>
      by_cases hinlined : (record.module.isNull && record.inlined) = true
      · simp only [if_pos hinlined]
        rfl
      · simp only [if_neg hinlined]
        rfl

/-- The registrations when pipelines are recorded: those of the stages of each pipeline for which
there is a handle. -/
def registrations : List PipelineDraft → List PipelineHandle → List Registration
  | [], _ => []
  | draft :: rest, pipelines =>
    let pipeline := pipelines.headD .null
    (if pipeline.isNull then []
      else draft.records.filterMap (StageRecord.registration? pipeline)) ++
      registrations rest pipelines.tail

/-- The registration of a shader object, if it is instrumented and there is a handle. -/
def ShaderObjectDraft.registration? (draft : ShaderObjectDraft) (object : ShaderObjectHandle) :
    Option Registration :=
  match draft.made with
  | none => none
  | some made => if object.isNull then none else some (.object made.id object made.code)

/-- The registrations when shader objects are posted. -/
def objectRegistrations : List ShaderObjectDraft → List ShaderObjectHandle → List Registration
  | [], _ => []
  | draft :: rest, objects =>
    (draft.registration? (objects.headD .null)).toList ++ objectRegistrations rest objects.tail

/-! ### Events -/

/-- What happens to the registry. -/
inductive RegistryEvent where
  | registered (registration : Registration)
  | pipelineDestroyed (pipeline : PipelineHandle)
  | moduleDestroyed (module : ModuleHandle)
  | shaderObjectDestroyed (object : ShaderObjectHandle)
  deriving DecidableEq

namespace RegistryEvent

/-- What an event makes of the registry. -/
def apply (registry : Registry) : RegistryEvent → Registry
  | .registered registration => registry.insert registration.id registration.shader
  | .pipelineDestroyed pipeline => (registry.erasePipeline pipeline).2
  | .moduleDestroyed module => (registry.eraseModule module).2
  | .shaderObjectDestroyed object => (registry.eraseObject object).2

/-- Whether an event leaves a registration as it is: it is not one under the same identifier, and no
destruction of what the entry names. -/
def spares (registration : Registration) : RegistryEvent → Bool
  | .registered other => other.id != registration.id
  | .pipelineDestroyed pipeline => registration.shader.pipeline != pipeline
  | .moduleDestroyed module => registration.shader.module != module
  | .shaderObjectDestroyed object => registration.shader.object != object

end RegistryEvent

/-- The registry behind some events. -/
def replay (registry : Registry) (events : List RegistryEvent) : Registry :=
  events.foldl RegistryEvent.apply registry

theorem replay_append (registry : Registry) (first second : List RegistryEvent) :
    replay registry (first ++ second) = replay (replay registry first) second :=
  List.foldl_append

/-- That a registration stands at the end of a history: everything behind it spares it. -/
def Stands (events : List RegistryEvent) (registration : Registration) : Prop :=
  ∃ older newer, events = older ++ .registered registration :: newer ∧
    ∀ event ∈ newer, event.spares registration = true

theorem Stands.mem {events : List RegistryEvent} {registration : Registration}
    (h : Stands events registration) : .registered registration ∈ events := by
  obtain ⟨older, newer, rfl, -⟩ := h
  exact List.mem_append_right _ List.mem_cons_self

/-- What an event does to the registry, as an operation of the store. -/
def RegistryEvent.operation : RegistryEvent → RegistryOperation
  | .registered registration => .insert registration.id registration.shader
  | .pipelineDestroyed pipeline => .eraseNamed (.pipeline pipeline)
  | .moduleDestroyed module => .eraseNamed (.module module)
  | .shaderObjectDestroyed object => .eraseNamed (.shaderObject object)

/-- An event spares a registration exactly if the operation spares its entry. -/
theorem RegistryEvent.operation_spares_iff (event : RegistryEvent) (registration : Registration) :
    event.operation.Spares registration.id registration.shader ↔
      event.spares registration = true := by
  cases event <;>
    simp [operation, spares, RegistryOperation.Spares, InstrumentedShader.refersTo]

/-- A replay is a run of operations on the store. -/
theorem replay_eq_after (events : List RegistryEvent) :
    replay .empty events = Registry.after (events.map RegistryEvent.operation) := by
  have hstep : RegistryEvent.apply =
      fun registry event ↦ event.operation.apply registry := by
    funext registry event
    cases event <;> rfl
  rw [replay, Registry.after, List.foldl_map, hstep]

/-- An entry is found exactly if it is that of a registration that stands. -/
theorem get?_replay_eq_some_iff (events : List RegistryEvent) (id : ShaderId)
    (shader : InstrumentedShader) :
    (replay .empty events).get? id = some shader ↔
      ∃ registration, Stands events registration ∧ registration.id = id ∧
        registration.shader = shader := by
  rw [replay_eq_after, Registry.get?_after_eq_some_iff]
  constructor
  · rintro ⟨_, _, _, hsplit, rfl, hspares⟩
    obtain ⟨older, last, rfl, -, hlast⟩ := List.map_eq_append_iff.mp hsplit
    obtain ⟨event, newer, rfl, hevent, rfl⟩ := List.map_eq_cons_iff.mp hlast
    cases event with
    | registered registration =>
      obtain ⟨rfl, rfl⟩ := RegistryOperation.insert.inj hevent
      refine ⟨registration, ⟨older, newer, rfl, fun event hmem ↦ ?_⟩, rfl, rfl⟩
      exact (event.operation_spares_iff registration).mp (hspares _ (List.mem_map_of_mem hmem))
    | pipelineDestroyed => cases hevent
    | moduleDestroyed => cases hevent
    | shaderObjectDestroyed => cases hevent
  · rintro ⟨registration, ⟨older, newer, rfl, hspares⟩, rfl, rfl⟩
    refine ⟨older.map RegistryEvent.operation, _, newer.map RegistryEvent.operation,
      List.map_append, rfl, List.forall_mem_map.mpr fun event hmem ↦ ?_⟩
    exact (event.operation_spares_iff registration).mpr (hspares event hmem)

/-! ### The history of a run -/

/-- Registrations as events, if registering is asked for. -/
def registeredIf (registering : Bool) (entries : List Registration) : List RegistryEvent :=
  if registering then entries.map .registered else []

namespace Instrumentor

variable {P : Platform}

theorem registry_register (s : Instrumentor P) (entries : List Registration) :
    (s.register (entries.map Registration.entry)).registry =
      replay s.registry (entries.map .registered) := by
  unfold register replay
  rw [List.foldl_map, List.foldl_map]
  rfl

theorem registry_recordPipeline (registering : Bool) (s : Instrumentor P) (draft : PipelineDraft)
    (pipeline : PipelineHandle) :
    (recordPipeline registering s draft pipeline).registry =
      replay s.registry (registeredIf registering (if pipeline.isNull then []
        else draft.records.filterMap (StageRecord.registration? pipeline))) := by
  simp only [recordPipeline]
  by_cases hnull : pipeline.isNull = true
  · rw [if_pos hnull, if_pos hnull, (SameHoldings.releases.release s draft.objects).registry]
    unfold registeredIf
    cases registering <;> rfl
  · rw [if_neg hnull, if_neg hnull]
    have hentries : (if registering then draft.records.filterMap (StageRecord.entry? pipeline)
        else []) = (if registering then
          draft.records.filterMap (StageRecord.registration? pipeline) else []).map
            Registration.entry := by
      cases registering with
      | false => rfl
      | true =>
        simp only [if_true, List.map_filterMap]
        exact List.filterMap_congr fun record _ ↦ record.entry?_eq pipeline
    have hregister := registry_register s (if registering then
      draft.records.filterMap (StageRecord.registration? pipeline) else [])
    have hkept (u : Instrumentor P) (objects : PipelineObjects) :
        (if objects.isEmpty then u else
          { u with pipelines := u.pipelines.insert pipeline objects }).registry = u.registry := by
      split <;> rfl
    have hevents : registeredIf registering
        (draft.records.filterMap (StageRecord.registration? pipeline)) =
          (if registering then draft.records.filterMap (StageRecord.registration? pipeline)
            else []).map .registered := by
      unfold registeredIf
      cases registering <;> rfl
    rw [hentries, hkept, hevents, hregister]

theorem registry_recordAll (registering : Bool) (s : Instrumentor P) (drafts : List PipelineDraft)
    (pipelines : List PipelineHandle) :
    (recordAll registering s drafts pipelines).registry =
      replay s.registry (registeredIf registering (registrations drafts pipelines)) := by
  induction drafts generalizing s pipelines with
  | nil =>
    unfold registeredIf registrations
    cases registering <;> rfl
  | cons draft rest ih =>
    unfold recordAll
    rw [ih, registry_recordPipeline, ← replay_append]
    unfold registeredIf
    cases registering with
    | false => rfl
    | true => simp only [if_true, registrations, List.map_append]

theorem registry_recordShaderObjects (s : Instrumentor P) (drafts : List ShaderObjectDraft)
    (objects : List ShaderObjectHandle) :
    (s.recordShaderObjects drafts objects).registry =
      replay s.registry ((objectRegistrations drafts objects).map .registered) := by
  induction drafts generalizing s objects with
  | nil => rfl
  | cons draft rest ih =>
    unfold recordShaderObjects
    rw [ih]
    simp only [objectRegistrations, List.map_append]
    rw [replay_append]
    congr 1
    unfold recordShaderObject ShaderObjectDraft.registration?
    cases draft.made with
    | none => rfl
    | some made =>
      by_cases hnull : (objects.headD .null).isNull = true
      · simp only [if_pos hnull]
        rfl
      · simp only [if_neg hnull]
        rfl

end Instrumentor

namespace Session

variable {P : Platform}

open Instrumentor

/-- What a hook does to the registry: registrations by the hooks after creations, and destructions
by the hooks before them. -/
def registryEvents (t : Session P) : Hook → List RegistryEvent
  | .moduleDestroyed module => [.moduleDestroyed module]
  | .pipelineDestroyed pipeline => [.pipelineDestroyed pipeline]
  | .shaderObjectDestroyed object => [.shaderObjectDestroyed object]
  | .pipelinesCreated creation pipelines =>
    registeredIf t.state.isInstrumenting
      (registrations ((t.pipelines[creation]?).getD []) pipelines)
  | .rayTracingPipelinesCreated creation operation result pipelines =>
    if operation.isNull || result != .deferred then
      registeredIf t.state.isInstrumenting
        (registrations ((t.pipelines[creation]?).getD []) pipelines)
    else []
  | .completeDeferred operation pipelines =>
    ((t.state.deferred.get? operation).getD []).flatMap fun recording ↦
      registeredIf recording.register (registrations recording.drafts pipelines)
  | .shaderObjectsCreated creation objects =>
    registeredIf t.state.isInstrumenting
      (objectRegistrations ((t.shaderObjects[creation]?).getD []) objects)
  | _ => []

theorem replay_registeredIf_nil (registry : Registry) (registering : Bool) :
    replay registry (registeredIf registering []) = registry := by
  unfold registeredIf
  cases registering <;> rfl

theorem registry_completeDeferred (s : Instrumentor P) (recordings : List Recording)
    (pipelines : List PipelineHandle) :
    (recordings.foldl (fun s recording ↦ recordAll recording.register s recording.drafts pipelines)
      s).registry = replay s.registry (recordings.flatMap fun recording ↦
        registeredIf recording.register (registrations recording.drafts pipelines)) := by
  induction recordings generalizing s with
  | nil => rfl
  | cons recording rest ih =>
    rw [List.foldl_cons, ih, List.flatMap_cons, replay_append, registry_recordAll]

/-- A hook does to the registry what its events do. -/
theorem registry_step (t : Session P) (hook : Hook) :
    (t.step hook).state.registry = replay t.state.registry (t.registryEvents hook) := by
  by_cases hholdings : hook.leavesHoldings = true
  · have hnone : t.registryEvents hook = [] := by
      cases hook <;> first | rfl | cases hholdings
    rw [hnone]
    exact (sameHoldings_step t hholdings).registry
  · cases hook with
    | moduleDestroyed module => rfl
    | pipelineDestroyed pipeline =>
      simp only [step, become, pipelineDestroyed, registryEvents]
      split
      · rfl
      · exact (SameHoldings.releases.release _ _).registry
    | shaderObjectDestroyed object => rfl
    | trackDeferred operation => rfl
    | forgetDeferred operation => rfl
    | pipelinesCreated creation pipelines =>
      simp only [step, finishPipelines, registryEvents]
      cases t.pipelines[creation]? with
      | none => exact (replay_registeredIf_nil _ _).symm
      | some drafts => exact registry_recordAll _ t.state drafts pipelines
    | rayTracingPipelinesCreated creation operation result pipelines =>
      simp only [step, finishPipelines, registryEvents]
      cases t.pipelines[creation]? with
      | none =>
        by_cases hnow : (operation.isNull || result != .deferred) = true
        · rw [if_pos hnow]
          exact (replay_registeredIf_nil _ _).symm
        · rw [if_neg hnow]
          rfl
      | some drafts =>
        rcases t.state.rayTracingPipelinesCreated_cases drafts operation result pipelines with
          ⟨hnow, hafter⟩ | ⟨hnow, -, deferred, -, hafter⟩ | ⟨hnow, -, hafter⟩ <;>
          simp only [hafter, hnow]
        · exact registry_recordAll _ t.state drafts pipelines
        · rfl
        · exact (SameHoldings.releases.releaseAll _ drafts).registry
    | completeDeferred operation pipelines => exact registry_completeDeferred _ _ pipelines
    | shaderObjectsCreated creation objects =>
      simp only [step, finishShaderObjects, registryEvents]
      cases t.shaderObjects[creation]? with
      | none => exact (replay_registeredIf_nil _ _).symm
      | some drafts =>
        simp only [shaderObjectsCreated, registeredIf, Option.getD_some]
        split
        · exact registry_recordShaderObjects t.state drafts objects
        · rfl
    | _ => exact absurd rfl hholdings

/-- The registry of a run is the replay of its history. -/
theorem registry_run (t : Session P) (hooks : List Hook) :
    (t.run hooks).state.registry =
      replay t.state.registry (collect registryEvents t hooks) := by
  induction hooks generalizing t with
  | nil => rfl
  | cons hook rest ih =>
    rw [run_cons, ih, registry_step, collect, replay_append]

/-! ### Where registrations come from -/

theorem mem_registeredIf {registering : Bool} {entries : List Registration}
    {registration : Registration}
    (h : .registered registration ∈ registeredIf registering entries) :
    registration ∈ entries := by
  unfold registeredIf at h
  split at h
  · simpa using h
  · exact absurd h List.not_mem_nil

/-- A registration of a pipeline is that of a stage which one of the drafts records, for a pipeline
that there is. -/
theorem exists_record_of_mem_registrations {drafts : List PipelineDraft}
    {pipelines : List PipelineHandle} {registration : Registration}
    (h : registration ∈ registrations drafts pipelines) :
    ∃ draft ∈ drafts, ∃ record ∈ draft.records, ∃ pipeline : PipelineHandle,
      pipeline.isNull = false ∧ record.registration? pipeline = some registration := by
  induction drafts generalizing pipelines with
  | nil => exact absurd h List.not_mem_nil
  | cons draft rest ih =>
    rcases List.mem_append.mp h with hhead | hrest
    · split at hhead
      · exact absurd hhead List.not_mem_nil
      · next hgiven =>
        obtain ⟨record, hrecord, hregistration⟩ := List.mem_filterMap.mp hhead
        exact ⟨draft, List.mem_cons_self, record, hrecord, _, Bool.eq_false_iff.mpr hgiven,
          hregistration⟩
    · obtain ⟨other, hother, hexists⟩ := ih hrest
      exact ⟨other, List.mem_cons_of_mem _ hother, hexists⟩

/-- A registration of shader objects is that of instrumented code which one of the drafts has, for a
shader object that there is. -/
theorem exists_made_of_mem_objectRegistrations {drafts : List ShaderObjectDraft}
    {objects : List ShaderObjectHandle} {registration : Registration}
    (h : registration ∈ objectRegistrations drafts objects) :
    ∃ draft ∈ drafts, ∃ made object, draft.made = some made ∧ object.isNull = false ∧
      registration = .object made.id object made.code := by
  induction drafts generalizing objects with
  | nil => exact absurd h List.not_mem_nil
  | cons draft rest ih =>
    rcases List.mem_append.mp h with hhead | hrest
    · rw [Option.mem_toList] at hhead
      unfold ShaderObjectDraft.registration? at hhead
      cases hmade : draft.made with
      | none =>
        rw [hmade] at hhead
        cases hhead
      | some made =>
        simp only [hmade] at hhead
        by_cases hnull : (objects.headD .null).isNull = true
        · rw [if_pos hnull] at hhead
          cases hhead
        · rw [if_neg hnull] at hhead
          exact ⟨draft, List.mem_cons_self, made, _, hmade, Bool.eq_false_iff.mpr hnull,
            (Option.some.inj hhead).symm⟩
    · obtain ⟨other, hother, hexists⟩ := ih hrest
      exact ⟨other, List.mem_cons_of_mem _ hother, hexists⟩

/-- What a hook registers is a stage that is recorded by a draft which the hook takes out of the
session, for a pipeline that there is, or the instrumented code of such a draft, for a shader object
that there is. -/
theorem origin_of_mem_registryEvents {t : Session P} {hook : Hook} {registration : Registration}
    (h : .registered registration ∈ t.registryEvents hook) :
    (∃ draft ∈ t.handedOver hook, ∃ record ∈ draft.records, ∃ pipeline : PipelineHandle,
      pipeline.isNull = false ∧ record.registration? pipeline = some registration) ∨
      ∃ draft ∈ t.handedOverObjects hook, ∃ made object, draft.made = some made ∧
        object.isNull = false ∧ registration = .object made.id object made.code := by
  cases hook with
  | pipelinesCreated creation pipelines =>
    exact Or.inl (exists_record_of_mem_registrations (mem_registeredIf h))
  | rayTracingPipelinesCreated creation operation result pipelines =>
    simp only [registryEvents] at h
    by_cases hnow : (operation.isNull || result != .deferred) = true
    · rw [if_pos hnow] at h
      simp only [handedOver, hnow, Bool.true_or, if_true]
      exact Or.inl (exists_record_of_mem_registrations (mem_registeredIf h))
    · rw [if_neg hnow] at h
      exact absurd h List.not_mem_nil
  | completeDeferred operation pipelines =>
    obtain ⟨recording, hrecording, hmem⟩ := List.mem_flatMap.mp h
    obtain ⟨draft, hdraft, hexists⟩ := exists_record_of_mem_registrations (mem_registeredIf hmem)
    exact Or.inl ⟨draft, List.mem_flatMap.mpr ⟨recording, hrecording, hdraft⟩, hexists⟩
  | shaderObjectsCreated creation objects =>
    exact Or.inr (exists_made_of_mem_objectRegistrations (mem_registeredIf h))
  | _ => simp [registryEvents] at h

/-- What is registered in a run is a stage that is recorded by a draft which the run takes out of
the session, for a pipeline that there is, or the instrumented code of such a draft, for a shader
object that there is. -/
theorem origin_of_mem_history {t : Session P} {hooks : List Hook} {registration : Registration}
    (h : .registered registration ∈ collect registryEvents t hooks) :
    (∃ draft ∈ collect handedOver t hooks, ∃ record ∈ draft.records, ∃ pipeline : PipelineHandle,
      pipeline.isNull = false ∧ record.registration? pipeline = some registration) ∨
      ∃ draft ∈ collect handedOverObjects t hooks, ∃ made object, draft.made = some made ∧
        object.isNull = false ∧ registration = .object made.id object made.code := by
  obtain ⟨older, hook, newer, rfl, hmem⟩ := mem_collect_iff.mp h
  refine (origin_of_mem_registryEvents hmem).imp ?_ ?_
  · rintro ⟨draft, hdraft, hexists⟩
    exact ⟨draft, mem_collect_iff.mpr ⟨older, hook, newer, rfl, hdraft⟩, hexists⟩
  · rintro ⟨draft, hdraft, hexists⟩
    exact ⟨draft, mem_collect_iff.mpr ⟨older, hook, newer, rfl, hdraft⟩, hexists⟩

/-- A stage that is registered in a run is recorded by a draft that the run takes out of the
session. -/
theorem exists_record_of_mem_history {t : Session P} {hooks : List Hook}
    {registration : Registration}
    (h : .registered registration ∈ collect registryEvents t hooks)
    (hstage : registration.isStage = true) :
    ∃ draft ∈ collect handedOver t hooks, ∃ record ∈ draft.records, ∃ pipeline,
      record.registration? pipeline = some registration := by
  rcases origin_of_mem_history h with
    ⟨draft, hdraft, record, hrecord, pipeline, -, hregistration⟩ |
    ⟨draft, -, made, object, -, -, rfl⟩
  · exact ⟨draft, hdraft, record, hrecord, pipeline, hregistration⟩
  · cases hstage

end Session

end ShaderGuard
