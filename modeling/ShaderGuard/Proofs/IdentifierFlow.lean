import ShaderGuard.Proofs.RegistryHistory
import ShaderGuard.Proofs.Stages

/-!
# The way of identifiers

An identifier goes from an attempt into a draft, and from there into the registry, once each. The
identifiers of drafts are counted with multiplicity (`Session.draftIds`), and so are those under
which events register (`eventIds`). A hook takes registered identifiers out of drafts
(`Session.eventIds_sublist`) and puts identifiers of attempts into them
(`Session.ids_prepared_sublist`), so a run registers under no identifier more often than attempts
have made it (`Session.count_ids_run`).
-/

set_option autoImplicit false

namespace ShaderGuard

open Bytecode (ShaderId)

variable {P : Platform}

/-! ### The identifiers in drafts -/

/-- The identifiers in some records. -/
def recordIds (records : List StageRecord) : List ShaderId :=
  records.flatMap fun record ↦ record.shaderId.toList

theorem recordIds_append (first second : List StageRecord) :
    recordIds (first ++ second) = recordIds first ++ recordIds second := by
  unfold recordIds
  rw [List.flatMap_append]

/-- The identifiers in a draft of a pipeline. -/
def PipelineDraft.ids (draft : PipelineDraft) : List ShaderId := recordIds draft.records

/-- The identifier in a draft of a shader object. -/
def ShaderObjectDraft.ids (draft : ShaderObjectDraft) : List ShaderId :=
  draft.made.toList.map InstrumentedCode.id

namespace Instrumentor

/-- The identifier of a stage is that of the attempt on it. -/
theorem ids_instrumentStage_sublist (site : StageSite) (s : Instrumentor P)
    (indexed : ShaderStage × Nat) :
    (instrumentStage site s indexed).1.record.shaderId.toList.Sublist
      ((stageAttempts site s indexed).map Attempt.id) := by
  have hfate := StageFate.ofInstrumentStage knowsModules_any site s indexed
  cases hid : (instrumentStage site s indexed).1.record.shaderId with
  | none => exact List.nil_sublist _
  | some id =>
    obtain ⟨attempt, hmem, -, rfl, -⟩ := hfate.instrumented id hid
    exact List.singleton_sublist.mpr (List.mem_map_of_mem hmem)

theorem ids_instrumentStages_sublist (site : StageSite) (s : Instrumentor P)
    (stages : List ShaderStage) :
    (recordIds ((instrumentStages site s stages).1.map StageOutcome.record)).Sublist
      ((stagesAttempts site s stages).map Attempt.id) := by
  unfold recordIds
  rw [List.flatMap_map]
  exact flatMap_thread_sublist (ids_instrumentStage_sublist site) s stages.zipIdx

theorem ids_relinkLibrary_sublist (site : StageSite) (link : LinkState P)
    (library : GraphicsLibrary) :
    (recordIds (relinkLibrary site link library).1.records).Sublist
      ((libraryAttempts site link library).map Attempt.id) := by
  simp only [relinkLibrary, libraryAttempts]
  by_cases hempty : library.info.stages.isEmpty = true
  · rw [if_pos hempty]
    exact List.nil_sublist _
  · rw [if_neg hempty, if_neg hempty]
    have hstages := ids_instrumentStages_sublist { site with library := some library.handle }
      link.state library.info.stages
    split <;> exact hstages

theorem ids_preparePipeline_sublist (slot : UInt32) (location : String) (s : Instrumentor P)
    (indexed : PipelineInfo × Nat) :
    (preparePipeline slot location s indexed).1.ids.Sublist
      ((pipelineAttempts slot location s indexed).map Attempt.id) := by
  simp only [preparePipeline, pipelineAttempts]
  by_cases heligible : isEligible indexed.1 slot = true
  · rw [if_pos heligible, if_pos heligible, List.map_append]
    let site : StageSite := ⟨none, indexed.1.isBindless, elementOf location indexed.2⟩
    have hlibraries : ((thread (relinkLibrary site) ⟨{}, s⟩ indexed.1.libraries).1.flatMap
        fun outcome ↦ recordIds outcome.records).Sublist
          ((librariesAttempts site ⟨{}, s⟩ indexed.1.libraries).map Attempt.id) :=
      flatMap_thread_sublist (ids_relinkLibrary_sublist site) _ _
    have hstages := ids_instrumentStages_sublist site
      (thread (relinkLibrary site) ⟨{}, s⟩ indexed.1.libraries).2.state indexed.1.stages
    simp only [instrumentPipeline, PipelineDraft.ids, recordIds_append]
    refine List.Sublist.append ?_ hstages
    rw [recordIds, List.flatMap_assoc]
    exact hlibraries
  · rw [if_neg heligible]
    exact List.nil_sublist _

/-- The identifiers in the drafts of a call are those of attempts of the call, once each. -/
theorem ids_preparePipelines_sublist (s : Instrumentor P) (infos : List PipelineInfo)
    (location : String) :
    ((s.preparePipelines infos location).1.flatMap PipelineDraft.ids).Sublist
      ((s.pipelinesAttempts infos location).map Attempt.id) := by
  rcases s.preparePipelines_cases infos location with
    ⟨hkept, -⟩ | ⟨slot, hprepared, hattempts, -⟩
  · have hnone : (infos.map fun info ↦ ({ info } : PipelineDraft)).flatMap PipelineDraft.ids =
        [] := by
      rw [List.flatMap_map, List.flatMap_eq_nil_iff]
      exact fun _ _ ↦ rfl
    rw [hkept, hnone]
    exact List.nil_sublist _
  · rw [hprepared, hattempts]
    exact flatMap_thread_sublist (ids_preparePipeline_sublist slot location) s infos.zipIdx

/-- The identifier of a shader object is that of the attempt on it. -/
theorem ids_prepareShaderObject_sublist (reservation : Reservation) (call : String)
    (s : Instrumentor P) (indexed : ShaderObjectInfo × Nat) :
    (prepareShaderObject reservation call s indexed).1.ids.Sublist
      ((objectAttempts reservation call s indexed).map Attempt.id) := by
  have hfate := objectFate_prepareShaderObject reservation call s indexed
  unfold ShaderObjectDraft.ids
  cases hmade : (prepareShaderObject reservation call s indexed).1.made with
  | none => exact List.nil_sublist _
  | some words => exact List.singleton_sublist.mpr (List.mem_map_of_mem (hfate words hmade).2)

theorem ids_prepareShaderObjects_sublist (s : Instrumentor P) (infos : List ShaderObjectInfo)
    (call : String) :
    ((s.prepareShaderObjects infos call).1.flatMap ShaderObjectDraft.ids).Sublist
      ((s.objectsAttempts infos call).map Attempt.id) := by
  rcases s.prepareShaderObjects_cases infos call with
    ⟨hkept, -⟩ | ⟨reservation, hprepared, hattempts⟩
  · have hnone : (infos.map fun info ↦ ({ info } : ShaderObjectDraft)).flatMap
        ShaderObjectDraft.ids = [] := by
      rw [List.flatMap_map, List.flatMap_eq_nil_iff]
      exact fun _ _ ↦ rfl
    rw [hkept, hnone]
    exact List.nil_sublist _
  · rw [hprepared, hattempts]
    exact flatMap_thread_sublist (ids_prepareShaderObject_sublist reservation call) s infos.zipIdx

end Instrumentor

/-! ### From drafts into the registry -/

/-- The registrations among some events, in order. -/
def registered (events : List RegistryEvent) : List Registration :=
  events.filterMap fun
    | .registered registration => some registration
    | _ => none

theorem registered_append (first second : List RegistryEvent) :
    registered (first ++ second) = registered first ++ registered second :=
  List.filterMap_append

theorem registered_map (entries : List Registration) :
    registered (entries.map .registered) = entries := by
  unfold registered
  rw [List.filterMap_map]
  exact List.filterMap_some

theorem registered_registeredIf_sublist (registering : Bool) (entries : List Registration) :
    (registered (registeredIf registering entries)).Sublist entries := by
  unfold registeredIf
  split
  · rw [registered_map]
  · exact List.nil_sublist _

theorem shaderId_of_registration? {pipeline : PipelineHandle} {record : StageRecord}
    {registration : Registration} (h : record.registration? pipeline = some registration) :
    record.shaderId = some registration.id := by
  unfold StageRecord.registration? at h
  cases hid : record.shaderId with
  | none =>
    rw [hid] at h
    cases h
  | some id =>
    cases hcode : record.code with
    | none =>
      rw [hid, hcode] at h
      cases h
    | some code =>
      rw [hid, hcode] at h
      rw [← Option.some.inj h]
      rfl

/-- The registrations of a pipeline have identifiers of its records, once each. -/
theorem ids_records_sublist (pipeline : PipelineHandle) (records : List StageRecord) :
    ((records.filterMap (StageRecord.registration? pipeline)).map Registration.id).Sublist
      (recordIds records) := by
  induction records with
  | nil => exact List.Sublist.refl _
  | cons record rest ih =>
    unfold recordIds at ih ⊢
    rw [List.flatMap_cons]
    cases hregistration : record.registration? pipeline with
    | none =>
      rw [List.filterMap_cons_none hregistration]
      exact ih.trans (List.sublist_append_right _ _)
    | some registration =>
      rw [List.filterMap_cons_some hregistration, shaderId_of_registration? hregistration]
      exact ih.cons_cons registration.id

theorem ids_registrations_sublist (drafts : List PipelineDraft) (pipelines : List PipelineHandle) :
    ((registrations drafts pipelines).map Registration.id).Sublist
      (drafts.flatMap PipelineDraft.ids) := by
  induction drafts generalizing pipelines with
  | nil => exact List.Sublist.refl _
  | cons draft rest ih =>
    simp only [registrations, List.map_append, List.flatMap_cons]
    refine List.Sublist.append ?_ (ih _)
    split
    · exact List.nil_sublist _
    · exact ids_records_sublist _ draft.records

theorem ids_objectRegistrations_sublist (drafts : List ShaderObjectDraft)
    (objects : List ShaderObjectHandle) :
    ((objectRegistrations drafts objects).map Registration.id).Sublist
      (drafts.flatMap ShaderObjectDraft.ids) := by
  induction drafts generalizing objects with
  | nil => exact List.Sublist.refl _
  | cons draft rest ih =>
    simp only [objectRegistrations, List.map_append, List.flatMap_cons]
    refine List.Sublist.append ?_ (ih _)
    unfold ShaderObjectDraft.registration? ShaderObjectDraft.ids
    cases draft.made with
    | none => exact List.Sublist.refl _
    | some made =>
      by_cases hnull : (objects.headD .null).isNull = true
      · simp only [if_pos hnull]
        exact List.nil_sublist _
      · simp only [if_neg hnull]
        exact List.Sublist.refl _

/-- The identifiers under which some events register. -/
def eventIds (events : List RegistryEvent) : List ShaderId :=
  (registered events).map Registration.id

theorem eventIds_append (first second : List RegistryEvent) :
    eventIds (first ++ second) = eventIds first ++ eventIds second := by
  unfold eventIds
  rw [registered_append, List.map_append]

theorem eventIds_registeredIf_sublist (registering : Bool) (entries : List Registration) :
    (eventIds (registeredIf registering entries)).Sublist (entries.map Registration.id) :=
  (registered_registeredIf_sublist registering entries).map _

namespace Session

open Instrumentor

/-- The identifiers in the drafts of a session. -/
def draftIds (t : Session P) : List ShaderId :=
  t.drafts.flatMap PipelineDraft.ids ++ t.objectDrafts.flatMap ShaderObjectDraft.ids

/-- The registrations of a hook have identifiers of drafts that it takes out of the session, once
each. -/
theorem eventIds_sublist (t : Session P) (hook : Hook) :
    (eventIds (t.registryEvents hook)).Sublist
      ((t.handedOver hook).flatMap PipelineDraft.ids ++
        (t.handedOverObjects hook).flatMap ShaderObjectDraft.ids) := by
  cases hook with
  | pipelinesCreated creation pipelines =>
    refine List.Sublist.trans ?_ (List.sublist_append_left _ _)
    exact (eventIds_registeredIf_sublist _ _).trans (ids_registrations_sublist _ _)
  | rayTracingPipelinesCreated creation operation result pipelines =>
    refine List.Sublist.trans ?_ (List.sublist_append_left _ _)
    simp only [registryEvents, handedOver]
    by_cases hnow : (operation.isNull || result != .deferred) = true
    · simp only [hnow, Bool.true_or, if_true]
      exact (eventIds_registeredIf_sublist _ _).trans (ids_registrations_sublist _ _)
    · rw [if_neg hnow]
      exact List.nil_sublist _
  | completeDeferred operation pipelines =>
    refine List.Sublist.trans ?_ (List.sublist_append_left _ _)
    simp only [registryEvents, handedOver, waitingFor]
    induction (t.state.deferred.get? operation).getD [] with
    | nil => exact List.Sublist.refl _
    | cons recording rest ih =>
      simp only [List.flatMap_cons, eventIds_append, List.flatMap_append]
      exact ((eventIds_registeredIf_sublist _ _).trans (ids_registrations_sublist _ _)).append ih
  | shaderObjectsCreated creation objects =>
    refine List.Sublist.trans ?_ (List.sublist_append_right _ _)
    exact (eventIds_registeredIf_sublist _ _).trans (ids_objectRegistrations_sublist _ _)
  | _ => exact List.nil_sublist _

theorem ids_prepared_sublist (t : Session P) (hook : Hook) :
    ((t.prepared hook).flatMap PipelineDraft.ids ++
      (t.preparedObjects hook).flatMap ShaderObjectDraft.ids).Sublist
        ((t.attempts hook).map Attempt.id) := by
  cases hook with
  | preparePipelines infos location =>
    rw [preparedObjects.eq_def, List.flatMap_nil, List.append_nil]
    exact ids_preparePipelines_sublist t.state infos location
  | prepareShaderObjects infos call =>
    exact ids_prepareShaderObjects_sublist t.state infos call
  | _ => exact List.nil_sublist _

/-- A hook puts no identifier into the registry or into drafts more often than it was there in
drafts or comes of an attempt. -/
theorem count_ids_step (t : Session P) (hook : Hook) (id : ShaderId) :
    (eventIds (t.registryEvents hook)).count id + (t.step hook).draftIds.count id ≤
      t.draftIds.count id + ((t.attempts hook).map Attempt.id).count id := by
  have hdrafts := ((t.perm_drafts_step hook).flatMap_right PipelineDraft.ids).count_eq id
  have hobjects := ((t.perm_objectDrafts_step hook).flatMap_right ShaderObjectDraft.ids).count_eq id
  -- Drafts add up, so what is registered was in them, and what is in them comes of attempts.
  have hevents := (t.eventIds_sublist hook).count_le id
  have hprepared := (t.ids_prepared_sublist hook).count_le id
  simp only [List.flatMap_append, List.count_append] at hdrafts hobjects hevents hprepared
  unfold draftIds
  rw [List.count_append, List.count_append]
  omega

/-- A run registers under no identifier more often than attempts have made it. -/
theorem count_ids_run (t : Session P) (hooks : List Hook) (id : ShaderId) :
    (eventIds (collect registryEvents t hooks)).count id + (t.run hooks).draftIds.count id ≤
      t.draftIds.count id + ((collect attempts t hooks).map Attempt.id).count id := by
  induction hooks generalizing t with
  | nil => simp [collect, eventIds, registered]
  | cons hook rest ih =>
    have hstep := t.count_ids_step hook id
    have hrest := ih (t.step hook)
    simp only [collect, eventIds_append, List.map_append, List.count_append, run_cons]
    omega

end Session

end ShaderGuard
