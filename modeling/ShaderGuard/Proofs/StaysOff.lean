import ShaderGuard.Proofs.ModuleLedger
import ShaderGuard.Proofs.RegistryHistory
import ShaderGuard.Proofs.Reports
import ShaderGuard.Proofs.SharedIdentifiers
import ShaderGuard.Proofs.SwitchedOff
import ShaderGuard.Proofs.ToolCalls

/-!
# What is switched off stays off

Once instrumentation is switched off, no hook switches it on again, and every later creation is
forwarded as it is (`Session.staysOff_of_inactive`). Hooks still keep the books: pipelines that were
created before are forgotten and what was made for them is destroyed, and the device may be torn
down. In all this the device is asked to create nothing, no tool is called, nothing is attempted,
and the cache and the counter stay as they are or are emptied (`Instrumentor.Inert`).

The registry may still gain entries, but by one way only. Whether the stages of a deferred creation
will be registered was decided when it was deferred, and stands when it is complete
(`Session.exists_recording_of_gained`).
-/

set_option autoImplicit false

namespace ShaderGuard

open Bytecode (ShaderId fingerprint)

/-! ### Replays -/

/-- An entry that is found behind some events was found before them, or they have registered it. -/
theorem registered_of_get?_replay {registry : Registry} {events : List RegistryEvent}
    {id : ShaderId} {shader : InstrumentedShader}
    (h : (replay registry events).get? id = some shader) :
    registry.get? id = some shader ∨ ∃ registration, .registered registration ∈ events ∧
      registration.id = id ∧ registration.shader = shader := by
  induction events generalizing registry with
  | nil => exact Or.inl h
  | cons event rest ih =>
    rcases @ih (event.apply registry) h with hbefore | ⟨registration, hmem, hentry⟩
    · have hkept (test : InstrumentedShader → Bool)
          (hfound : (registry.eraseWhere test).get? id = some shader) :
          registry.get? id = some shader := by
        rw [Registry.get?_eraseWhere, Option.filter_eq_some_iff] at hfound
        exact hfound.1
      cases event with
      | registered registration =>
        by_cases hid : registration.id = id
        · have hself : (registry.insert registration.id registration.shader).get? id =
              some shader := hbefore
          rw [hid, Table.get?_insert_self] at hself
          exact Or.inr ⟨registration, List.mem_cons_self, hid, Option.some.inj hself⟩
        · have hother : (registry.insert registration.id registration.shader).get? id =
              some shader := hbefore
          rw [Table.get?_insert_of_ne _ _ hid] at hother
          exact Or.inl hother
      | pipelineDestroyed pipeline => exact Or.inl (hkept _ hbefore)
      | moduleDestroyed module => exact Or.inl (hkept _ hbefore)
      | shaderObjectDestroyed object => exact Or.inl (hkept _ hbefore)
    · exact Or.inr ⟨registration, List.mem_cons_of_mem _ hmem, hentry⟩

variable {P : Platform}

namespace Instrumentor

/-! ### What goes on while instrumentation is off -/

theorem patchPipelineLayout_of_off {s : Instrumentor P} (hoff : s.isInstrumenting = false)
    (layouts : List SetLayoutHandle) : s.patchPipelineLayout layouts = (none, s) := by
  unfold patchPipelineLayout
  split
  · rfl
  · rw [if_neg (by rw [hoff]; exact Bool.false_ne_true)]

/-- That between two states no object is created, no tool is called, no identifier is consumed and
nothing is put into the cache. -/
structure Inert (s t : Instrumentor P.observed) : Prop where
  device : ∃ calls, t.calls = calls ++ s.calls ∧ ∀ call ∈ calls, call.asksToCreate = false
  tools : t.toolCalls = s.toolCalls
  nextId : t.nextId = s.nextId
  cache : ∀ id words, t.cache.get? id = some words → s.cache.get? id = some words

namespace Inert

theorem of_sameSupplies {s t : Instrumentor P.observed} (h : SameSupplies s t)
    (hdevice : t.device = s.device) (htools : t.tools = s.tools) : Inert s t where
  device := ⟨[], congrArg Prod.snd hdevice, fun _ hcall ↦ absurd hcall List.not_mem_nil⟩
  tools := congrArg Prod.snd htools
  nextId := h.nextId
  cache id words hkept := by rwa [h.cache] at hkept

theorem refl (s : Instrumentor P.observed) : Inert s s := of_sameSupplies (.refl s) rfl rfl

theorem trans {s t u : Instrumentor P.observed} (hst : Inert s t) (htu : Inert t u) :
    Inert s u := by
  obtain ⟨first, hfirst, hnone⟩ := hst.device
  obtain ⟨second, hsecond, hnone'⟩ := htu.device
  refine ⟨⟨second ++ first, ?_, List.forall_mem_append.mpr ⟨hnone', hnone⟩⟩,
    htu.tools.trans hst.tools, htu.nextId.trans hst.nextId,
    fun id words hkept ↦ hst.cache id words (htu.cache id words hkept)⟩
  rw [hsecond, hfirst, List.append_assoc]

/-- A destruction, or any other call that creates nothing. -/
theorem of_call {s t : Instrumentor P.observed} {call : DeviceCall} (h : SameSupplies s t)
    (hcalls : t.calls = call :: s.calls) (hcall : call.asksToCreate = false)
    (htools : t.tools = s.tools) : Inert s t where
  device := ⟨[call], hcalls, by rwa [List.forall_mem_singleton]⟩
  tools := congrArg Prod.snd htools
  nextId := h.nextId
  cache id words hkept := by rwa [h.cache] at hkept

theorem bookkeeping : Bookkeeping (P := P.observed) Inert where
  refl := refl
  trans := trans
  destroyModule _ _ := of_call ⟨rfl, rfl, rfl, rfl⟩ rfl rfl rfl
  destroyLibrary _ _ := of_call ⟨rfl, rfl, rfl, rfl⟩ rfl rfl rfl
  note _ _ _ _ _ := of_sameSupplies ⟨rfl, rfl, rfl, rfl⟩ rfl rfl

theorem clears : Clears (P := P.observed) Inert where
  refl := refl
  trans := trans
  destroySetLayout _ _ := of_call ⟨rfl, rfl, rfl, rfl⟩ rfl rfl rfl
  destroyPipelineLayout _ _ := of_call ⟨rfl, rfl, rfl, rfl⟩ rfl rfl rfl

/-- A teardown empties the cache. -/
theorem tearDownDevice (s : Instrumentor P.observed) : Inert s s.tearDownDevice := by
  refine clears.tearDownDevice (fun t ↦ ?_) s
  exact ⟨(refl t).device, rfl, rfl, fun id words hkept ↦ nomatch hkept⟩

end Inert

end Instrumentor

namespace Session

open Instrumentor

/-- Where instrumentation is off, no hook creates, calls, consumes or keeps anything. -/
theorem inert_step {t : Session P.observed} (hoff : t.state.subsystem.active = false)
    (hook : Hook) : Inert t.state (t.step hook).state := by
  have hidle := isInstrumenting_of_inactive hoff
  by_cases hreports : hook.reportsOnly = true
  · have hreported := onlyReports_step t hreports
    have hsame := hreported.sameSupplies
    obtain ⟨log, subsystem, selectedModules, hafter, -⟩ := hreported
    exact .of_sameSupplies hsame (by rw [hafter]) (by rw [hafter])
  by_cases hrecords : hook.recordsOnly = true
  · exact bookkeeping_step Inert.bookkeeping t hrecords
  · cases hook with
    | setUpDevice capabilities =>
      simp only [step, become, setUpDevice_of_inactive hoff]
      exact .refl t.state
    | tearDownDevice => exact .tearDownDevice t.state
    | moduleDestroyed module => exact .of_sameSupplies ⟨rfl, rfl, rfl, rfl⟩ rfl rfl
    | preparePipelines infos location =>
      simp only [step, preparePipelines_of_off hidle]
      exact .refl t.state
    | prepareShaderObjects infos call =>
      simp only [step, prepareShaderObjects_of_off hidle]
      exact .refl t.state
    | shaderObjectsCreated creation objects =>
      simp only [step, finishShaderObjects]
      split
      · exact .refl t.state
      · next drafts _ =>
        obtain ⟨registry, shaderObjects, hafter⟩ :=
          exists_shaderObjectsCreated_eq t.state drafts objects
        rw [hafter]
        exact .of_sameSupplies ⟨rfl, rfl, rfl, rfl⟩ rfl rfl
    | shaderObjectDestroyed object => exact .of_sameSupplies ⟨rfl, rfl, rfl, rfl⟩ rfl rfl
    | _ => first | exact absurd rfl hreports | exact absurd rfl hrecords

theorem inert_run {t : Session P.observed} (hoff : t.state.subsystem.active = false)
    (hooks : List Hook) : Inert t.state (t.run hooks).state := by
  induction hooks generalizing t with
  | nil => exact .refl t.state
  | cons hook rest ih =>
    have hnext : (t.step hook).state.subsystem.active = false := (reportsOnce_step t hook).off hoff
    exact (inert_step hoff hook).trans (ih hnext)

/-- Where instrumentation is off nothing is attempted. -/
theorem attempts_of_inactive {t : Session P} (hoff : t.state.subsystem.active = false)
    (hook : Hook) : t.attempts hook = [] := by
  cases hook with
  | preparePipelines infos location =>
    exact (onlyAsks_of_rewrites.preparePipelines t.state infos location hoff).1
  | prepareShaderObjects infos call =>
    exact (onlyAsks_of_rewrites.prepareShaderObjects t.state infos call hoff).1
  | _ => rfl

/-- Nothing is attempted in a run that begins when instrumentation is off. -/
theorem collect_attempts_of_inactive {t : Session P} (hoff : t.state.subsystem.active = false)
    (hooks : List Hook) : collect attempts t hooks = [] := by
  refine List.eq_nil_iff_forall_not_mem.mpr fun attempt hmem ↦ ?_
  obtain ⟨older, hook, newer, rfl, hattempt⟩ := mem_collect_iff.mp hmem
  rw [attempts_of_inactive (inactive_run hoff older)] at hattempt
  exact absurd hattempt List.not_mem_nil

/-! ### What was deferred before -/

/-- Where instrumentation is off a hook registers a stage only when a deferred operation is
complete, and only if the recording that waits for it says so. -/
theorem exists_recording_of_registered {t : Session P} (hoff : t.state.isInstrumenting = false)
    {hook : Hook} {registration : Registration}
    (h : .registered registration ∈ t.registryEvents hook) :
    ∃ operation pipelines recording, hook = .completeDeferred operation pipelines ∧
      recording ∈ t.recordings operation ∧ recording.register = true ∧
      registration ∈ registrations recording.drafts pipelines := by
  have hnone (entries : List Registration) :
      .registered registration ∉ registeredIf t.state.isInstrumenting entries := by
    rw [hoff]
    exact List.not_mem_nil
  cases hook with
  | pipelinesCreated creation pipelines => exact absurd h (hnone _)
  | rayTracingPipelinesCreated creation operation result pipelines =>
    simp only [registryEvents] at h
    split at h
    · exact absurd h (hnone _)
    · exact absurd h List.not_mem_nil
  | completeDeferred operation pipelines =>
    obtain ⟨recording, hwaits, hmem⟩ := List.mem_flatMap.mp h
    have hregister : recording.register = true := by
      by_contra hnot
      rw [Bool.not_eq_true] at hnot
      rw [hnot] at hmem
      exact List.not_mem_nil hmem
    exact ⟨operation, pipelines, recording, rfl, hwaits, hregister, mem_registeredIf hmem⟩
  | shaderObjectsCreated creation objects => exact absurd h (hnone _)
  | _ => simp [registryEvents] at h

/-- A recording that waits for an operation, and whose stages will be registered, has waited since
before instrumentation was switched off. -/
theorem mem_recordings_of_inactive {t : Session P} (hoff : t.state.subsystem.active = false)
    {hooks : List Hook} {operation : DeferredHandle} {recording : Recording}
    (h : recording ∈ (t.run hooks).recordings operation) (hregister : recording.register = true) :
    recording ∈ t.recordings operation := by
  by_contra hbefore
  obtain ⟨older, creation, result, pipelines, newer, rfl, -, hdecided⟩ :=
    exists_post_of_mem_recordings hbefore h
  rw [isInstrumenting_of_inactive (inactive_run hoff older), hregister] at hdecided
  cases hdecided

/-- That an entry comes of an operation that was deferred in one run, while shaders were being
rewritten, and is completed in another. -/
structure DeferredSince (first : Session P) (older newer : List Hook) (id : ShaderId)
    (shader : InstrumentedShader) (operation : DeferredHandle) (recording : Recording)
    (registration : Registration) : Prop where
  entry : registration.id = id ∧ registration.shader = shader
  completed : ∃ pipelines, .completeDeferred operation pipelines ∈ newer ∧
    registration ∈ registrations recording.drafts pipelines
  waits : recording ∈ (first.run older).recordings operation
  posted : ∃ before creation result pipelines between,
    older = before ++ .rayTracingPipelinesCreated creation operation result pipelines :: between ∧
      (first.run before).pipelines[creation]? = some recording.drafts ∧
      (first.run before).state.isInstrumenting = true

/-- What the registry has gained in a run with instrumentation off comes of operations that were
deferred before. -/
theorem exists_recording_of_gained {first : Session P} (hfirst : first.state.deferred = .empty)
    {older newer : List Hook} (hoff : (first.run older).state.subsystem.active = false)
    {id : ShaderId} {shader : InstrumentedShader}
    (h : ((first.run older).run newer).state.registry.get? id = some shader) :
    (first.run older).state.registry.get? id = some shader ∨
      ∃ operation recording registration,
        DeferredSince first older newer id shader operation recording registration := by
  rw [registry_run] at h
  refine (registered_of_get?_replay h).imp_right ?_
  rintro ⟨registration, hmem, hentry⟩
  obtain ⟨before, hook, behind, rfl, hevent⟩ := mem_collect_iff.mp hmem
  have hidle := isInstrumenting_of_inactive (inactive_run hoff before)
  obtain ⟨operation, pipelines, recording, rfl, hwaits, hregister, hregistration⟩ :=
    exists_recording_of_registered hidle hevent
  have hwaited := mem_recordings_of_inactive hoff hwaits hregister
  have hnot : recording ∉ first.recordings operation := by
    unfold recordings
    rw [hfirst]
    exact List.not_mem_nil
  obtain ⟨posted, creation, result, handles, between, hsplit, hdrafts, hdecided⟩ :=
    exists_post_of_mem_recordings hnot hwaited
  refine ⟨operation, recording, registration, hentry, ⟨pipelines, ?_, hregistration⟩, hwaited,
    posted, creation, result, handles, between, hsplit, hdrafts, ?_⟩
  · exact List.mem_append_right _ List.mem_cons_self
  · rw [← hdecided, hregister]

/-! ### The result -/

/-- What the hooks before creations answer where instrumentation is off: everything is forwarded as
it is, nothing is recorded, and no device is set up. -/
structure ForwardsAll (s : Instrumentor P) : Prop where
  pipelines : ∀ infos location,
    s.preparePipelines infos location = (infos.map fun info ↦ { info }, s)
  shaderObjects : ∀ infos call,
    s.prepareShaderObjects infos call = (infos.map fun info ↦ { info }, s)
  layouts : ∀ layouts, s.patchPipelineLayout layouts = (none, s)
  device : ∀ capabilities, s.setUpDevice capabilities = (.error .subsystemDisabled, s)

/-- What is known of a run behind another one, at the end of which instrumentation is off. -/
structure StaysOff (first : Session P.observed) (older newer : List Hook) : Prop where
  off : ((first.run older).run newer).state.subsystem.active = false
  forwards : ForwardsAll ((first.run older).run newer).state
  inert : Inert (first.run older).state ((first.run older).run newer).state
  attempts : collect attempts (first.run older) newer = []
  /-- What the registry has gained was deferred while shaders were still being rewritten. -/
  gained : ∀ id shader, ((first.run older).run newer).state.registry.get? id = some shader →
    (first.run older).state.registry.get? id = some shader ∨
      ∃ operation recording registration,
        DeferredSince first older newer id shader operation recording registration
  /-- The error that has switched instrumentation off is the only one that was reported. -/
  reported : (internalErrors ((first.run older).run newer).state.log).length = 1

/-- Assumes: that instrumentation is off behind a run. Behind any further run it is off still. In
all states from then on, creations are forwarded as they are and no device can be set up. In the
further run the device is asked to create nothing, no tool is called, nothing is attempted, no
identifier is consumed and the cache gains nothing; and the registry gains only what was deferred
while shaders were still being rewritten. In both runs together one internal error is reported. -/
theorem staysOff_of_inactive (settings : Settings) (device : P.DeviceState) (tools : P.ToolState)
    (storage : P.StorageState) (older : List Hook)
    (hoff : ((start settings (device, []) (tools, []) storage :
      Session P.observed).run older).state.subsystem.active = false) (newer : List Hook) :
    StaysOff (start settings (device, []) (tools, []) storage) older newer := by
  have hstays := inactive_run hoff newer
  have hidle := isInstrumenting_of_inactive hstays
  refine
    { off := hstays
      forwards := ⟨preparePipelines_of_off hidle, prepareShaderObjects_of_off hidle,
        patchPipelineLayout_of_off hidle, setUpDevice_of_inactive hstays⟩
      inert := inert_run hoff newer
      attempts := collect_attempts_of_inactive hoff newer
      gained := fun id shader hfound ↦ exists_recording_of_gained rfl hoff hfound
      reported := ?_ }
  have hall := internalErrors_run (P := P.observed) settings (device, []) (tools, []) storage
    (older ++ newer)
  rw [run_append] at hall
  rw [hall, hstays, if_neg Bool.false_ne_true]

/-- A creation is deferred, instrumentation is switched off, and an internal error comes up again.
When the operation is complete the stage of the pipeline is registered all the same. -/
theorem staysOff_of_inactive_completed_later :
    let first : Session (Simulation.platform false {}).observed := start {} ({}, []) ([], []) []
    let older := [.setUpDevice {}, .trackDeferred ⟨5⟩] ++ deferredRayTracing ++
      [.internalError "vkCmdWaitEvents" "deadlock"]
    let newer := .internalError "vkCmdWaitEvents" "deadlock" :: deferredRayTracing ++
      [.completeDeferred ⟨5⟩ [⟨9⟩]]
    let before := (first.run older).state
    let id := fingerprint guardedAccess
    let shader := (Registration.stage id ⟨9⟩ (some ⟨21⟩) guardedAccess).shader
    before.subsystem.active = false ∧ before.registry.get? id = none ∧
      ((first.run older).run newer).state.registry.get? id = some shader ∧
      StaysOff first older newer ∧
      ∃ operation recording registration,
        DeferredSince first older newer id shader operation recording registration := by
  intro first older newer before id shader
  have hoff : before.subsystem.active = false := by decide +kernel
  have hbefore : before.registry.get? id = none := by decide +kernel
  have hfound : ((first.run older).run newer).state.registry.get? id = some shader := by
    decide +kernel
  have hstays : StaysOff first older newer :=
    staysOff_of_inactive (P := Simulation.platform false {}) {} {} [] [] older hoff newer
  have hnot : before.registry.get? id ≠ some shader := by
    rw [hbefore]
    exact Option.some_ne_none _ ∘ Eq.symm
  exact ⟨hoff, hbefore, hfound, hstays, (hstays.gained id shader hfound).resolve_left hnot⟩

end Session

end ShaderGuard
