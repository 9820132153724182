import ShaderGuard.Proofs.LibraryLedger
import ShaderGuard.Proofs.SharedIdentifiers

/-!
# What recording a batch leaves behind

Once the driver has created the pipelines of a call, each draft is recorded under the handle in its
place (`PipelineDraft.withHandles`), and one without a handle could not be created. Three things
come of it (`Instrumentor.RecordsBatch`). The registry has, under each identifier, the entry of the
last instrumented stage with it, in the order of the pipelines and of their stages. The table of
pipelines has what is to be remembered of each pipeline that there is. And whatever is held for the
others is destroyed, in order, so that they take no part in the first two.

What a draft holds is what was created for its pipeline, but for libraries that are displaced
(`PipelineDraft.Keeps`). So all that was created for a pipeline is destroyed when the pipeline could
not be created, exactly if no two libraries of one kind were created for it
(`Instrumentor.batch_recorded`). With two of them the first one stays
(`Session.left_with_second_library`).
-/

set_option autoImplicit false

namespace ShaderGuard

open Bytecode (ShaderId fingerprint)

variable {P : Platform}

/-! ### The last registration -/

/-- Behind some registrations an identifier has the entry of the last one under it, or else what it
had before. -/
theorem get?_replay_registered (registry : Registry) (entries : List Registration)
    (id : ShaderId) : (replay registry (entries.map .registered)).get? id =
      ((entries.filter fun registration ↦ registration.id = id).getLast?.map
        Registration.shader).or (registry.get? id) := by
  induction entries generalizing registry with
  | nil => rfl
  | cons registration rest ih =>
    have hfirst : replay registry ((registration :: rest).map .registered) =
        replay (registry.insert registration.id registration.shader) (rest.map .registered) := rfl
    rw [hfirst, ih]
    by_cases hid : registration.id = id
    · subst hid
      rw [Table.get?_insert_self, List.filter_cons_of_pos (by simp), List.getLast?_cons]
      cases (rest.filter fun other ↦ other.id = registration.id).getLast? <;> rfl
    · rw [Table.get?_insert_of_ne _ _ hid, List.filter_cons_of_neg (by simpa using hid)]

/-! ### Batches -/

/-- Each draft with the handle in its place; null if there is none. -/
def PipelineDraft.withHandles (drafts : List PipelineDraft) (handles : List PipelineHandle) :
    List (PipelineDraft × PipelineHandle) :=
  drafts.zipIdx.map fun indexed ↦ (indexed.1, (handles[indexed.2]?).getD .null)

theorem PipelineDraft.withHandles_cons (draft : PipelineDraft) (rest : List PipelineDraft)
    (handles : List PipelineHandle) : withHandles (draft :: rest) handles =
      (draft, handles.headD .null) :: withHandles rest handles.tail := by
  unfold withHandles
  rw [List.zipIdx_cons, List.map_cons, List.zipIdx_succ, List.map_map]
  refine congrArg₂ List.cons ?_ (List.map_congr_left fun indexed _ ↦ ?_)
  · cases handles <;> rfl
  · simp

theorem PipelineDraft.map_fst_withHandles (drafts : List PipelineDraft)
    (handles : List PipelineHandle) : (withHandles drafts handles).map Prod.fst = drafts := by
  unfold withHandles
  rw [List.map_map]
  exact List.zipIdx_map_fst 0 drafts

/-- The pipelines of a batch that there are. -/
def createdIn (batch : List (PipelineDraft × PipelineHandle)) :
    List (PipelineDraft × PipelineHandle) :=
  batch.filter fun pair ↦ !pair.2.isNull

/-- The drafts of a batch whose pipelines could not be created. -/
def failedIn (batch : List (PipelineDraft × PipelineHandle)) : List PipelineDraft :=
  (batch.filter fun pair ↦ pair.2.isNull).map Prod.fst

theorem createdIn_cons (draft : PipelineDraft) (handle : PipelineHandle)
    (batch : List (PipelineDraft × PipelineHandle)) : createdIn ((draft, handle) :: batch) =
      (if handle.isNull then [] else [(draft, handle)]) ++ createdIn batch := by
  unfold createdIn
  cases hnull : handle.isNull <;> simp [hnull]

theorem failedIn_cons (draft : PipelineDraft) (handle : PipelineHandle)
    (batch : List (PipelineDraft × PipelineHandle)) : failedIn ((draft, handle) :: batch) =
      (if handle.isNull then [draft] else []) ++ failedIn batch := by
  unfold failedIn
  cases hnull : handle.isNull <;> simp [hnull]

/-- The instrumented stages with an identifier, each with its pipeline, in the order of the
pipelines and of their stages. -/
def stagesUnder (id : ShaderId) (pairs : List (PipelineDraft × PipelineHandle)) :
    List (StageRecord × PipelineHandle) :=
  pairs.flatMap fun pair ↦
    (pair.1.records.filter fun record ↦ record.shaderId = some id).map fun record ↦ (record, pair.2)

/-- That no stage has an identifier but no code. -/
def PipelineDraft.Coded (draft : PipelineDraft) : Prop :=
  ∀ record ∈ draft.records, record.shaderId.isSome = true → record.code.isSome = true

/-- What is remembered of a pipeline whose stages are registered. -/
def PipelineDraft.remembered (draft : PipelineDraft) : PipelineObjects :=
  { draft.objects with
    instrumented := draft.records.any fun record ↦ record.shaderId.isSome }

theorem namedDrafts_eq_createdIn (drafts : List PipelineDraft) (handles : List PipelineHandle) :
    Instrumentor.namedDrafts drafts handles =
      createdIn (PipelineDraft.withHandles drafts handles) := by
  induction drafts generalizing handles with
  | nil => rfl
  | cons draft rest ih =>
    rw [PipelineDraft.withHandles_cons, createdIn_cons, Instrumentor.namedDrafts, ih]

/-- What is registered are the stages of the pipelines that there are. -/
theorem registrations_eq_flatMap (drafts : List PipelineDraft) (handles : List PipelineHandle) :
    registrations drafts handles =
      (createdIn (PipelineDraft.withHandles drafts handles)).flatMap fun pair ↦
        pair.1.records.filterMap (StageRecord.registration? pair.2) := by
  induction drafts generalizing handles with
  | nil => rfl
  | cons draft rest ih =>
    rw [PipelineDraft.withHandles_cons, createdIn_cons, registrations, ih, List.flatMap_append]
    congr 1
    split
    · rfl
    · rw [List.flatMap_singleton]

theorem StageRecord.filter_registration? (record : StageRecord) (pipeline : PipelineHandle)
    (id : ShaderId) : (record.registration? pipeline).filter (fun entry ↦ entry.id = id) =
      if record.shaderId = some id then record.registration? pipeline else none := by
  unfold registration?
  cases record.shaderId with
  | none => rfl
  | some own =>
    cases record.code with
    | none => simp
    | some code =>
      by_cases hid : own = id <;> simp [Option.filter, Registration.id, hid]

/-- The registrations under an identifier are those of the stages with it. -/
theorem filter_registrations (id : ShaderId) (pairs : List (PipelineDraft × PipelineHandle)) :
    (pairs.flatMap fun pair ↦ pair.1.records.filterMap (StageRecord.registration? pair.2)).filter
        (fun entry ↦ entry.id = id) =
      (stagesUnder id pairs).filterMap fun stage ↦ stage.1.registration? stage.2 := by
  unfold stagesUnder
  rw [List.filter_flatMap, List.filterMap_flatMap]
  refine List.flatMap_congr fun pair _ ↦ ?_
  rw [List.filter_filterMap, List.filterMap_map, List.filterMap_filter]
  refine List.filterMap_congr fun record _ ↦ ?_
  rw [record.filter_registration? pair.2 id]
  simp

/-- The entry of a stage that has an identifier. -/
theorem StageRecord.shader_registration? {record : StageRecord} {id : ShaderId} {code : Code}
    (hid : record.shaderId = some id) (hcode : record.code = some code)
    (pipeline : PipelineHandle) : (record.registration? pipeline).map Registration.shader = some
      { pipeline := record.library.getD pipeline
        module :=
          if record.module.isNull && record.inlined then Handle.inlinedStage else record.module
        object := .null
        code } := by
  unfold registration?
  rw [hid, hcode]
  cases record.module.isNull && record.inlined <;> rfl

/-- Assumes: that the instrumented stages of all drafts have code. So does a stage of a pipeline
that there is. -/
theorem exists_code_of_mem_stagesUnder {drafts : List PipelineDraft}
    (hcoded : ∀ draft ∈ drafts, draft.Coded) {handles : List PipelineHandle} {id : ShaderId}
    {stage : StageRecord × PipelineHandle}
    (h : stage ∈ stagesUnder id (createdIn (PipelineDraft.withHandles drafts handles))) :
    stage.1.shaderId = some id ∧ ∃ code, stage.1.code = some code := by
  obtain ⟨pair, hpair, hstage⟩ := List.mem_flatMap.mp h
  obtain ⟨record, hrecord, rfl⟩ := List.mem_map.mp hstage
  obtain ⟨hrecord, hid⟩ := List.mem_filter.mp hrecord
  have hid : record.shaderId = some id := of_decide_eq_true hid
  have hdraft : pair.1 ∈ drafts := by
    rw [← PipelineDraft.map_fst_withHandles drafts handles]
    exact List.mem_map_of_mem (List.mem_of_mem_filter hpair)
  have hcode := hcoded pair.1 hdraft record hrecord
  rw [hid] at hcode
  exact ⟨hid, Option.isSome_iff_exists.mp (hcode rfl)⟩

/-! ### What is held -/

/-- What a draft holds of what some calls have created for its pipeline: all modules, and, if none
has the null handle, all libraries but the displaced ones. These are all libraries exactly if no two
of one kind were created. -/
structure PipelineDraft.Keeps (draft : PipelineDraft) (calls : List DeviceCall) : Prop where
  modules : draft.objects.modules = madeModules calls
  libraries : (∀ library ∈ createdLibraries calls, library.isNull = false) →
    (createdLibraries calls).Perm (draft.objects.libraries ++ displacedLibraries calls)
  all_iff : (∀ library ∈ createdLibraries calls, library.isNull = false) →
    (draft.objects.libraries.Perm (createdLibraries calls) ↔
      ∀ fragment, (createdLibrariesOf fragment calls).length ≤ 1)

theorem PipelineDraft.keeps_of_madeBy {draft : PipelineDraft} {calls : List DeviceCall}
    (h : draft.objects.MadeBy calls) : draft.Keeps calls where
  modules := h.modules
  libraries := h.last.perm_libraries
  all_iff hnamed := by
    have hparts := h.last.perm_libraries hnamed
    rw [← Session.displacedLibraries_eq_nil_iff]
    constructor
    · intro hall
      have hlength := hall.length_eq.trans hparts.length_eq
      rw [List.length_append] at hlength
      exact List.length_eq_zero_iff.mp (by omega)
    · intro hnone
      rw [hnone, List.append_nil] at hparts
      exact hparts.symm

namespace Instrumentor

/-! ### What is recorded -/

/-- What recording a batch leaves behind, if stages are registered. -/
structure RecordsBatch (batch : List (PipelineDraft × PipelineHandle))
    (s t : Instrumentor P.audited) : Prop where
  /-- Under an identifier that no stage has, the registry stays as it was. -/
  unregistered : ∀ id, stagesUnder id (createdIn batch) = [] →
    t.registry.get? id = s.registry.get? id
  /-- Otherwise it has the last stage, which belongs to its library, if it has one, and else to its
  pipeline. -/
  registered : ∀ id record pipeline,
    (stagesUnder id (createdIn batch)).getLast? = some (record, pipeline) →
      ∃ code, record.code = some code ∧ t.registry.get? id = some
        { pipeline := record.library.getD pipeline
          module :=
            if record.module.isNull && record.inlined then Handle.inlinedStage else record.module
          object := .null
          code }
  /-- Nothing is remembered of other pipelines. -/
  others : ∀ pipeline ∉ (createdIn batch).map Prod.snd,
    t.pipelines.get? pipeline = s.pipelines.get? pipeline
  /-- Of each pipeline with a handle of its own is remembered what there is to remember. -/
  remembered : ((createdIn batch).map Prod.snd).Nodup → ∀ pair ∈ createdIn batch,
    t.pipelines.get? pair.2 =
      if pair.1.remembered.isEmpty then s.pipelines.get? pair.2 else some pair.1.remembered
  /-- What is held for the pipelines that there are not is destroyed, and nothing else. -/
  released : s.Asks ((failedIn batch).flatMap fun draft ↦ draft.objects.releaseCalls) t

theorem asks_recordPipeline (registering : Bool) (s : Instrumentor P.audited)
    (draft : PipelineDraft) (handle : PipelineHandle) :
    s.Asks (if handle.isNull then draft.objects.releaseCalls else [])
      (recordPipeline registering s draft handle) := by
  rcases recordPipeline_cases registering s draft handle with
    ⟨hnull, hafter⟩ | ⟨hgiven, registry, objects, -, hinserted | ⟨-, hkept⟩⟩
  · rw [if_pos hnull, hafter]
    exact asks_release s draft.objects
  · rw [if_neg (Bool.eq_false_iff.mp hgiven), hinserted]
    exact chains_asks.refl s
  · rw [if_neg (Bool.eq_false_iff.mp hgiven), hkept]
    exact chains_asks.refl s

theorem asks_recordAll (registering : Bool) (s : Instrumentor P.audited)
    (drafts : List PipelineDraft) (handles : List PipelineHandle) :
    s.Asks ((failedIn (PipelineDraft.withHandles drafts handles)).flatMap
      fun draft ↦ draft.objects.releaseCalls) (recordAll registering s drafts handles) := by
  induction drafts generalizing s handles with
  | nil => exact chains_asks.refl s
  | cons draft rest ih =>
    rw [PipelineDraft.withHandles_cons, failedIn_cons, List.flatMap_append]
    have hone : ((if (handles.headD .null).isNull then [draft] else []).flatMap
        fun draft ↦ draft.objects.releaseCalls) =
          if (handles.headD .null).isNull then draft.objects.releaseCalls else [] := by
      split
      · rw [List.flatMap_singleton]
      · rfl
    rw [hone]
    exact chains_asks.trans (asks_recordPipeline registering s draft _) (ih _ _)

/-- A stage enters the registry if it has an identifier, and its code with it. -/
theorem not_isEmpty_entries {draft : PipelineDraft} (hcoded : draft.Coded) (handle : PipelineHandle) :
    (!(draft.records.filterMap (StageRecord.entry? handle)).isEmpty) =
      draft.records.any fun record ↦ record.shaderId.isSome := by
  have hentry : ∀ record ∈ draft.records,
      record.entry? handle = none ↔ record.shaderId.isSome = false := by
    intro record hrecord
    have hcode := hcoded record hrecord
    unfold StageRecord.entry?
    cases hid : record.shaderId with
    | none => simp
    | some id =>
      rw [hid] at hcode
      obtain ⟨code, hcode⟩ := Option.isSome_iff_exists.mp (hcode rfl)
      simp [hcode]
  rw [Bool.eq_iff_iff, Bool.not_eq_true', Bool.eq_false_iff, ne_eq, List.isEmpty_iff,
    List.filterMap_eq_nil_iff, ← not_iff_not, not_not, List.any_eq_true]
  simp only [not_exists, not_and, Bool.not_eq_true]
  exact forall₂_congr hentry

/-- Assumes: a pipeline that was not recorded before, and whose instrumented stages have code. What
is remembered when its stages are registered. -/
theorem pipelines_recordPipeline (s : Instrumentor P) {draft : PipelineDraft}
    (hcoded : draft.Coded) (hnew : draft.objects.instrumented = false) {handle : PipelineHandle}
    (hgiven : handle.isNull = false) : (recordPipeline true s draft handle).pipelines =
      if draft.remembered.isEmpty then s.pipelines
      else s.pipelines.insert handle draft.remembered := by
  unfold recordPipeline
  rw [if_neg (Bool.eq_false_iff.mp hgiven)]
  simp only [if_true, hnew, not_isEmpty_entries hcoded, Bool.false_or]
  unfold PipelineDraft.remembered
  split <;> rfl

/-- Assumes: pipelines that were not recorded before, whose instrumented stages have code, and a
handle of its own for each of them that there is. What is remembered of each. -/
theorem get?_recordAll {drafts : List PipelineDraft} (hcoded : ∀ draft ∈ drafts, draft.Coded)
    (hnew : ∀ draft ∈ drafts, draft.objects.instrumented = false) (s : Instrumentor P.audited)
    (handles : List PipelineHandle)
    (hown : ((createdIn (PipelineDraft.withHandles drafts handles)).map Prod.snd).Nodup) :
    ∀ pair ∈ createdIn (PipelineDraft.withHandles drafts handles),
      (recordAll true s drafts handles).pipelines.get? pair.2 =
        if pair.1.remembered.isEmpty then s.pipelines.get? pair.2
        else some pair.1.remembered := by
  induction drafts generalizing s handles with
  | nil => exact fun pair hpair ↦ absurd hpair List.not_mem_nil
  | cons draft rest ih =>
    intro pair hpair
    obtain ⟨hcode, hcodes⟩ := List.forall_mem_cons.mp hcoded
    obtain ⟨hfresh, hfreshes⟩ := List.forall_mem_cons.mp hnew
    rw [PipelineDraft.withHandles_cons, createdIn_cons] at hown hpair
    rw [List.map_append, List.nodup_append'] at hown
    obtain ⟨-, hrest, hapart⟩ := hown
    have hothers := (Records.recordAll true
      (recordPipeline true s draft (handles.headD .null)) rest handles.tail).others
    rw [namedDrafts_eq_createdIn] at hothers
    have hone := (Records.recordPipeline true s draft (handles.headD .null)).others
    rcases List.mem_append.mp hpair with hhead | htail
    · -- The other pipelines have other handles.
      have hkept := hothers pair.2 (hapart (List.mem_map_of_mem hhead))
      show (recordAll true (recordPipeline true s draft _) rest _).pipelines.get? pair.2 = _
      rw [hkept]
      by_cases hnull : (handles.headD .null).isNull = true
      · rw [if_pos hnull] at hhead
        exact absurd hhead List.not_mem_nil
      · rw [if_neg hnull] at hhead
        obtain rfl := List.mem_singleton.mp hhead
        rw [pipelines_recordPipeline s hcode hfresh (Bool.eq_false_iff.mpr hnull)]
        split
        · rfl
        · exact Table.get?_insert_self _ _ _
    · have hlater : pair.2 ∉ (if (handles.headD .null).isNull then []
          else [(draft, handles.headD .null)]).map Prod.snd :=
        fun hmem ↦ hapart hmem (List.mem_map_of_mem htail)
      rw [← hone pair.2 hlater]
      exact ih hcodes hfreshes _ _ hrest pair htail

/-- Assumes: pipelines that were not recorded before, and whose instrumented stages have code. What
recording them leaves behind. -/
theorem recordsBatch_recordAll {drafts : List PipelineDraft}
    (hcoded : ∀ draft ∈ drafts, draft.Coded)
    (hnew : ∀ draft ∈ drafts, draft.objects.instrumented = false) (s : Instrumentor P.audited)
    (handles : List PipelineHandle) :
    RecordsBatch (PipelineDraft.withHandles drafts handles) s (recordAll true s drafts handles) := by
  have hregistry (id : ShaderId) : (recordAll true s drafts handles).registry.get? id =
      (((stagesUnder id (createdIn (PipelineDraft.withHandles drafts handles))).filterMap
        fun stage ↦ stage.1.registration? stage.2).getLast?.map Registration.shader).or
          (s.registry.get? id) := by
    rw [registry_recordAll, registeredIf, if_pos rfl, get?_replay_registered,
      registrations_eq_flatMap, filter_registrations]
  constructor
  · intro id hnone
    rw [hregistry, hnone]
    rfl
  · intro id record pipeline hlast
    obtain ⟨older, hstages⟩ := List.getLast?_eq_some_iff.mp hlast
    have hmem : (record, pipeline) ∈
        stagesUnder id (createdIn (PipelineDraft.withHandles drafts handles)) := by
      rw [hstages]
      exact List.mem_append_right _ List.mem_cons_self
    obtain ⟨hid, code, hcode⟩ := exists_code_of_mem_stagesUnder hcoded hmem
    have hshader := StageRecord.shader_registration? hid hcode pipeline
    obtain ⟨registration, hregistration, hentry⟩ := Option.map_eq_some_iff.mp hshader
    have hone : [(record, pipeline)].filterMap (fun stage ↦ stage.1.registration? stage.2) =
        [registration] := List.filterMap_cons_some hregistration
    refine ⟨code, hcode, ?_⟩
    rw [hregistry, hstages, List.filterMap_append, hone, List.getLast?_concat, Option.map_some,
      hentry]
    rfl
  · have hothers := (Records.recordAll true s drafts handles).others
    rwa [namedDrafts_eq_createdIn] at hothers
  · exact get?_recordAll hcoded hnew s handles
  · exact asks_recordAll true s drafts handles

/-! ### Prepared pipelines -/

/-- Instrumented stages of prepared pipelines have code. -/
theorem coded_preparePipelines (s : Instrumentor P) (infos : List PipelineInfo)
    (location : String) : ∀ draft ∈ (s.preparePipelines infos location).1, draft.Coded := by
  intro draft hdraft record hrecord hinstrumented
  obtain ⟨info, -, hfate⟩ := exists_mem_of_forall₂
    (forall₂_preparePipelines knowsModules_any s infos location) hdraft
  obtain ⟨id, hid⟩ := Option.isSome_iff_exists.mp hinstrumented
  obtain ⟨attempt, -, -, hcode⟩ := Session.attempted_of_draftFate hfate record hrecord id hid
  rw [hcode]
  rfl

/-- Prepared pipelines are not recorded yet. -/
theorem unrecorded_preparePipelines (s : Instrumentor P.audited) (infos : List PipelineInfo)
    (location : String) :
    ∀ draft ∈ (s.preparePipelines infos location).1, draft.objects.instrumented = false := by
  intro draft hdraft
  obtain ⟨calls, -, hmade⟩ :=
    exists_zip_of_forall₂ (builds_preparePipelines s infos location).made hdraft
  exact hmade.unrecorded

/-- Assumes: a state in which shaders are rewritten. When pipelines are created that were prepared
in any other state, and handles are given for as many of them as may be, the registry and the table
of pipelines get what is recorded of those that have one, and what is held for the others is
destroyed. This is all that was created for them but libraries behind which another one of the same
kind was created. -/
theorem batch_recorded (prepared s : Instrumentor P.audited) (infos : List PipelineInfo)
    (location : String) (handles : List PipelineHandle) (hactive : s.isInstrumenting = true) :
    let drafts := (prepared.preparePipelines infos location).1
    RecordsBatch (PipelineDraft.withHandles drafts handles) s
        (s.pipelinesCreated drafts handles) ∧
      List.Forall₂ PipelineDraft.Keeps drafts (prepared.preparations infos location) := by
  intro drafts
  constructor
  · have hrecords := recordsBatch_recordAll (prepared.coded_preparePipelines infos location)
      (prepared.unrecorded_preparePipelines infos location) s handles
    rw [← hactive] at hrecords
    exact hrecords
  · exact (builds_preparePipelines prepared infos location).made.imp fun draft calls ↦
      PipelineDraft.keeps_of_madeBy

/-- Of three pipelines with the same code the first one could not be created, and for the last one
there is no handle. The identifier of the code is that of the second one, of which its module is
remembered, and the modules of the others are destroyed. -/
theorem batch_recorded_one_of_three :
    let first : Session (Simulation.platform false {}).audited := .start {} ({}, []) [] []
    let ready := (first.step (.setUpDevice {})).state
    let infos := [⟨21⟩, ⟨22⟩, ⟨23⟩].map fun module ↦
      PipelineInfo.graphics (plainInfo [stageOf module guardedAccess] [])
    let prepared := ready.preparePipelines infos "vkCreateGraphicsPipelines"
    let failed := failedIn (PipelineDraft.withHandles prepared.1 [.null, ⟨8⟩])
    let t := prepared.2.pipelinesCreated prepared.1 [.null, ⟨8⟩]
    prepared.2.isInstrumenting = true ∧
      t.registry.get? (fingerprint guardedAccess) = some ⟨⟨8⟩, ⟨22⟩, .null, guardedAccess⟩ ∧
      t.pipelines.get? ⟨8⟩ = some { modules := [⟨0x10004⟩], instrumented := true } ∧
      failed.map (fun draft ↦ draft.objects.modules) = [[⟨0x10003⟩], [⟨0x10005⟩]] ∧
      prepared.2.Asks (failed.flatMap fun draft ↦ draft.objects.releaseCalls) t := by
  intro first ready infos prepared failed t
  have hactive : prepared.2.isInstrumenting = true := by decide +kernel
  let created := createdIn (PipelineDraft.withHandles prepared.1 [.null, ⟨8⟩])
  obtain ⟨hrecords, -⟩ := batch_recorded ready prepared.2 infos "vkCreateGraphicsPipelines"
    [.null, ⟨8⟩] hactive
  have hlast : (stagesUnder (fingerprint guardedAccess) created).getLast? =
      some (⟨some (fingerprint guardedAccess), false, ⟨22⟩, some guardedAccess, none⟩, ⟨8⟩) := by
    decide +kernel
  have hone : created.map (fun pair ↦ (pair.1.remembered, pair.2)) =
      [({ modules := [⟨0x10004⟩], instrumented := true }, ⟨8⟩)] := by
    decide +kernel
  have hmodules : failed.map (fun draft ↦ draft.objects.modules) = [[⟨0x10003⟩], [⟨0x10005⟩]] := by
    decide +kernel
  have hown : (created.map Prod.snd).Nodup := by decide +kernel
  refine ⟨hactive, ?_, ?_, hmodules, hrecords.released⟩
  · obtain ⟨code, hcode, hfound⟩ := hrecords.registered _ _ _ hlast
    obtain rfl := Option.some.inj hcode
    exact hfound
  · obtain ⟨pair, hpair, heq⟩ := List.map_eq_singleton_iff.mp hone
    obtain ⟨hobjects, hhandle⟩ := Prod.mk.inj heq
    have hmem : pair ∈ created := by
      rw [hpair]
      exact List.mem_cons_self
    have hfound := hrecords.remembered hown pair hmem
    rw [hobjects, hhandle] at hfound
    exact hfound

end Instrumentor

namespace Session

/-- A pipeline that is linked from two libraries without a fragment stage could not be created. Of
the libraries that were created for it the first one is not destroyed. -/
theorem left_with_second_library :
    let first : Session (Simulation.platform false {}).audited := start {} ({}, []) [] []
    let last := first.run [.setUpDevice {},
      .preparePipelines [.graphics (Instrumentor.plainInfo [] [libraryOf ⟨30⟩ .empty, libraryOf ⟨31⟩ .empty])]
        "vkCreateGraphicsPipelines",
      .pipelinesCreated 0 [.null]]
    createdLibraries last.state.calls = [⟨0x10004⟩, ⟨0x10003⟩] ∧
      destroyedLibraries last.state.calls = [⟨0x10004⟩] := by
  decide +kernel

end Session

end ShaderGuard
