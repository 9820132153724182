import ShaderGuard.Proofs.DraftFlow
import ShaderGuard.Proofs.HeldModules
import ShaderGuard.Simulation.Platform

/-!
# The ledger of modules

Modules that the library has created and not destroyed are held in three places: in the drafts of
creations that are under way, in the drafts that wait for deferred operations, and for recorded
pipelines (`Session.ledger`). A run keeps the ledger and the device's account in step, whatever
fails, if the driver gives each pipeline a handle of its own (`Session.outstanding_perm_ledger`). No
module is lost, none is destroyed twice, and none is destroyed while the pipeline made from it is
there.

Every list of drafts that waits for an operation is recorded under the handles that the operation
is completed with. If two of them wait for one operation, the handles are given twice, and the
modules of the first list are lost (`Session.lost_on_shared_operation`).
-/

set_option autoImplicit false

namespace ShaderGuard

variable {P : Platform}

namespace Session

open Instrumentor

/-! ### Handles that hooks are given -/

/-- The drafts that a hook records, with their handles. -/
def recorded (t : Session P) : Hook → List (PipelineDraft × PipelineHandle)
  | .pipelinesCreated creation pipelines =>
    namedDrafts ((t.pipelines[creation]?).getD []) pipelines
  | .rayTracingPipelinesCreated creation operation result pipelines =>
    if operation.isNull || result != .deferred then
      namedDrafts ((t.pipelines[creation]?).getD []) pipelines
    else []
  | .completeDeferred operation pipelines =>
    (t.recordings operation).flatMap fun recording ↦ namedDrafts recording.drafts pipelines
  | _ => []

/-- Whether a hook neither forgets a deferred operation that is pending nor tracks it anew. -/
def leavesPending (t : Session P) : Hook → Bool
  | .trackDeferred operation | .forgetDeferred operation => !t.state.deferred.isPending operation
  | _ => true

/-- The handles that a hook is given. -/
def givenHandles : Hook → List PipelineHandle
  | .pipelinesCreated _ pipelines | .rayTracingPipelinesCreated _ _ _ pipelines
  | .completeDeferred _ pipelines => pipelines.filter fun pipeline ↦ !pipeline.isNull
  | _ => []

/-- What a driver and a host keep to: the pipelines that a hook records get handles of their own,
and no pending operation is forgotten. -/
def Allows (t : Session P) (hook : Hook) : Prop :=
  t.state.Unrecorded ((t.recorded hook).map Prod.snd) ∧ t.leavesPending hook = true

instance (t : Session P) (hook : Hook) : Decidable (t.Allows hook) :=
  inferInstanceAs (Decidable (_ ∧ _))

/-- Assumes: that a hook is given handles of different pipelines, none of which is recorded, and
that no more than one list of drafts waits for an operation that is completed. Then the pipelines
that the hook records get handles of their own. -/
theorem allows_of_givenHandles {t : Session P} {hook : Hook}
    (hgiven : t.state.Unrecorded (givenHandles hook)) (hpending : t.leavesPending hook = true)
    (hone : ∀ operation pipelines, hook = .completeDeferred operation pipelines →
      (t.recordings operation).length ≤ 1) : t.Allows hook := by
  refine ⟨hgiven.sublist ?_, hpending⟩
  cases hook with
  | pipelinesCreated creation pipelines => exact handles_namedDrafts_sublist _ pipelines
  | rayTracingPipelinesCreated creation operation result pipelines =>
    simp only [recorded]
    split
    · exact handles_namedDrafts_sublist _ pipelines
    · exact List.nil_sublist _
  | completeDeferred operation pipelines =>
    have hlength := hone operation pipelines rfl
    simp only [recorded]
    match hwaiting : t.recordings operation with
    | [] => exact List.nil_sublist _
    | [recording] =>
      rw [List.flatMap_singleton]
      exact handles_namedDrafts_sublist recording.drafts pipelines
    | first :: second :: rest =>
      rw [hwaiting] at hlength
      simp at hlength
  | _ => exact List.nil_sublist _

/-! ### Hooks as recordings -/

/-- Nothing waits for an operation that is not pending. -/
theorem waitingFor_of_not_pending {s : Instrumentor P} {operation : DeferredHandle}
    (h : (!s.deferred.isPending operation) = true) : s.waitingFor operation = [] := by
  have hnone : s.deferred.get? operation = none := by
    simpa [DeferredQueue.isPending, Table.contains] using h
  unfold waitingFor
  rw [hnone]
  rfl

/-- Drafts of ray tracing pipelines are recorded, or released, or they wait. -/
theorem records_rayTracing (t : Session P.audited) (creation : Nat) (operation : DeferredHandle)
    (result : CreationResult) (pipelines : List PipelineHandle) :
    Records (t.handedOver (.rayTracingPipelinesCreated creation operation result pipelines))
      (t.recorded (.rayTracingPipelinesCreated creation operation result pipelines)) t.state
      (t.step (.rayTracingPipelinesCreated creation operation result pipelines)).state := by
  simp only [handedOver, recorded, step, finishPipelines]
  cases hdrafts : t.pipelines[creation]? with
  | none => simpa [namedDrafts] using Records.none (.refl t.state) rfl
  | some drafts =>
    rcases t.state.rayTracingPipelinesCreated_cases drafts operation result pipelines with
      ⟨hnow, hafter⟩ | ⟨hnow, hpending, deferred, -, hafter⟩ | ⟨hnow, hpending, hafter⟩
    · simp only [Option.getD_some, hnow, Bool.true_or, if_true, hafter]
      exact Records.recordAll _ t.state drafts pipelines
    · simp only [hnow, hpending, Bool.not_true, Bool.or_self, Bool.false_eq_true, if_false, hafter]
      exact Records.none ⟨rfl, rfl⟩ rfl
    · simp only [Option.getD_some, hnow, hpending, Bool.not_false, Bool.or_true, if_true,
        Bool.false_eq_true, if_false, hafter]
      have hlogged : Records [] [] t.state (t.state.record (untrackedEntry operation)) :=
        Records.none ⟨rfl, rfl⟩ rfl
      exact hlogged.trans (Records.releaseAll _ drafts)

/-- Every hook but those before creations and destructions of pipelines records what it hands
over. -/
theorem records_step (t : Session P.audited) {hook : Hook}
    (hprepare : ∀ infos location, hook ≠ .preparePipelines infos location)
    (hdestroy : ∀ pipeline, hook ≠ .pipelineDestroyed pipeline)
    (hpending : t.leavesPending hook = true) :
    Records (t.handedOver hook) (t.recorded hook) t.state (t.step hook).state := by
  by_cases hholdings : hook.leavesHoldings = true
  · have hnone : Records [] [] t.state (t.step hook).state :=
      Records.none (.of_onlyLayouts (onlyLayouts_step t hholdings hprepare))
        (sameHoldings_step t hholdings).pipelines
    cases hook <;> first | exact hnone | cases hholdings
  · cases hook with
    | moduleDestroyed module => exact Records.none ⟨rfl, rfl⟩ rfl
    | shaderObjectDestroyed object => exact Records.none ⟨rfl, rfl⟩ rfl
    | pipelineDestroyed pipeline => exact absurd rfl (hdestroy pipeline)
    | trackDeferred operation =>
      simp only [handedOver, waitingFor_of_not_pending hpending]
      exact Records.none ⟨rfl, rfl⟩ rfl
    | forgetDeferred operation =>
      simp only [handedOver, waitingFor_of_not_pending hpending]
      exact Records.none ⟨rfl, rfl⟩ rfl
    | pipelinesCreated creation pipelines =>
      simp only [handedOver, recorded, step, finishPipelines]
      cases t.pipelines[creation]? with
      | none => exact Records.none (.refl t.state) rfl
      | some drafts => exact Records.recordAll _ t.state drafts pipelines
    | rayTracingPipelinesCreated creation operation result pipelines =>
      exact records_rayTracing t creation operation result pipelines
    | completeDeferred operation pipelines =>
      have htaken : Records [] [] t.state { t.state with
          deferred := (DeferredQueue.pop t.state.deferred operation).2 } :=
        Records.none ⟨rfl, rfl⟩ rfl
      exact htaken.trans (Records.completeDeferred (t.recordings operation) pipelines _)
    | shaderObjectsCreated creation objects =>
      simp only [handedOver, recorded, step, finishShaderObjects]
      split
      · exact Records.none (.refl t.state) rfl
      · next drafts _ =>
        obtain ⟨registry, shaderObjects, hafter⟩ :=
          exists_shaderObjectsCreated_eq t.state drafts objects
        rw [hafter]
        exact Records.none ⟨rfl, rfl⟩ rfl
    | _ => exact absurd rfl hholdings

/-! ### The ledger -/

/-- The modules that are held anywhere. -/
def ledger (t : Session P) : List ModuleHandle :=
  draftModules t.drafts ++ t.state.recordedModules

/-- What the modules of drafts add up to. -/
theorem perm_draftModules_step (t : Session P) (hook : Hook) :
    (draftModules t.drafts ++ draftModules (t.prepared hook)).Perm
      (draftModules (t.handedOver hook) ++ draftModules (t.step hook).drafts) := by
  have hdrafts := (t.perm_drafts_step hook).flatMap_right fun draft ↦ draft.objects.modules
  rwa [List.flatMap_append, List.flatMap_append] at hdrafts

/-- A hook keeps the ledger and the device's account in step. -/
theorem holds_step {t : Session P.audited} {hook : Hook} (hallowed : t.Allows hook)
    (h : t.state.Holds t.ledger) : (t.step hook).state.Holds (t.step hook).ledger := by
  have hdrafts := t.perm_draftModules_step hook
  unfold ledger at h ⊢
  by_cases hprepare : ∃ infos location, hook = .preparePipelines infos location
  · obtain ⟨infos, location, rfl⟩ := hprepare
    have hrecorded := recordedModules_congr
      (SameHoldings.rewrites.preparePipelines t.state infos location).pipelines
    refine (holds_preparePipelines h infos location).perm ?_
    show List.Perm _ (draftModules _ ++ (t.state.preparePipelines infos location).2.recordedModules)
    rw [hrecorded, ← List.append_assoc]
    exact (List.perm_append_comm.trans hdrafts).append_right _
  · by_cases hdestroy : ∃ pipeline, hook = .pipelineDestroyed pipeline
    · obtain ⟨pipeline, rfl⟩ := hdestroy
      have hsame : (draftModules t.drafts).Perm
          (draftModules (t.step (.pipelineDestroyed pipeline)).drafts) := by
        simpa [prepared, handedOver, draftModules] using hdrafts
      have hheld := Holds.pipelineDestroyed (h.perm List.perm_append_comm) pipeline
      exact hheld.perm (List.perm_append_comm.trans (hsame.append_right _))
    · have hrecords := t.records_step (fun infos location heq ↦ hprepare ⟨infos, location, heq⟩)
        (fun pipeline heq ↦ hdestroy ⟨pipeline, heq⟩) hallowed.2
      have hnothing : t.prepared hook = [] := by
        cases hook <;> first | rfl | exact absurd ⟨_, _, rfl⟩ hprepare
      rw [hnothing, draftModules, draftModules, List.flatMap_nil, List.append_nil] at hdrafts
      have hbefore : t.state.Holds (draftModules (t.handedOver hook) ++
          (t.state.recordedModules ++ draftModules (t.step hook).drafts)) := by
        refine h.perm ((hdrafts.append_right _).trans ?_)
        rw [List.append_assoc]
        exact List.perm_append_comm.append_left _
      exact (hrecords.holds hallowed.1 _ hbefore).perm List.perm_append_comm

/-- A run keeps the ledger and the device's account in step. -/
theorem holds_run {t : Session P.audited} {hooks : List Hook} (hallowed : t.Along Allows hooks)
    (h : t.state.Holds t.ledger) : (t.run hooks).state.Holds (t.run hooks).ledger := by
  induction hooks generalizing t with
  | nil => exact h
  | cons hook rest ih => exact ih hallowed.2 (holds_step hallowed.1 h)

/-! ### Recorded pipelines -/

/-- A recorded pipeline keeps its modules until it is destroyed. -/
theorem get?_pipelines_step {t : Session P.audited} {hook : Hook} (hallowed : t.Allows hook)
    {pipeline : PipelineHandle} {objects : PipelineObjects}
    (hrecorded : t.state.pipelines.get? pipeline = some objects)
    (hkept : hook ≠ .pipelineDestroyed pipeline) :
    (t.step hook).state.pipelines.get? pipeline = some objects := by
  by_cases hprepare : ∃ infos location, hook = .preparePipelines infos location
  · obtain ⟨infos, location, rfl⟩ := hprepare
    have hsame := (SameHoldings.rewrites.preparePipelines t.state infos location).pipelines
    exact (congrArg (fun table ↦ Table.get? table pipeline) hsame).trans hrecorded
  · by_cases hdestroy : ∃ other, hook = .pipelineDestroyed other
    · obtain ⟨other, rfl⟩ := hdestroy
      have hne : other ≠ pipeline := fun heq ↦ hkept (by rw [heq])
      have hafter : (t.step (.pipelineDestroyed other)).state.pipelines =
          t.state.pipelines.erase other := by
        simp only [step, become, Instrumentor.pipelineDestroyed]
        split
        · rfl
        · exact (SameHoldings.releases.release _ _).pipelines
      rw [hafter, Table.get?_erase_of_ne _ hne, hrecorded]
    · have hrecords := t.records_step (fun infos location heq ↦ hprepare ⟨infos, location, heq⟩)
        (fun other heq ↦ hdestroy ⟨other, heq⟩) hallowed.2
      have hold : pipeline ∉ (t.recorded hook).map Prod.snd := by
        intro hmem
        have hnew := get?_eq_none_of_contains (hallowed.1.2 pipeline hmem)
        rw [hrecorded] at hnew
        cases hnew
      rw [hrecords.others pipeline hold, hrecorded]

theorem get?_pipelines_run {t : Session P.audited} {hooks : List Hook}
    (hallowed : t.Along Allows hooks) {pipeline : PipelineHandle} {objects : PipelineObjects}
    (hrecorded : t.state.pipelines.get? pipeline = some objects)
    (hkept : .pipelineDestroyed pipeline ∉ hooks) :
    (t.run hooks).state.pipelines.get? pipeline = some objects := by
  induction hooks generalizing t with
  | nil => exact hrecorded
  | cons hook rest ih =>
    have hhook : hook ≠ .pipelineDestroyed pipeline :=
      fun heq ↦ hkept (heq ▸ List.mem_cons_self)
    exact ih hallowed.2 (get?_pipelines_step hallowed.1 hrecorded hhook)
      fun hmem ↦ hkept (List.mem_cons_of_mem _ hmem)

/-- What is remembered of a recorded pipeline is remembered until it is destroyed. -/
theorem remembered_subset_run {α : Type} (view : PipelineObjects → List α) {t : Session P.audited}
    {hooks : List Hook} (hallowed : t.Along Allows hooks) {pipeline : PipelineHandle}
    (hkept : .pipelineDestroyed pipeline ∉ hooks) :
    ((t.state.pipelines.get? pipeline).map view).getD [] ⊆
      (((t.run hooks).state.pipelines.get? pipeline).map view).getD [] := by
  cases hrecorded : t.state.pipelines.get? pipeline with
  | none => exact List.nil_subset _
  | some objects =>
    rw [get?_pipelines_run hallowed hrecorded hkept]
    exact List.Subset.refl _

theorem modulesOf_subset_run {t : Session P.audited} {hooks : List Hook}
    (hallowed : t.Along Allows hooks) {pipeline : PipelineHandle}
    (hkept : .pipelineDestroyed pipeline ∉ hooks) :
    t.state.modulesOf pipeline ⊆ (t.run hooks).state.modulesOf pipeline :=
  remembered_subset_run PipelineObjects.modules hallowed hkept

/-- No draft is recorded before pipelines are created or destroyed. -/
theorem ne_of_mem_recorded {t : Session P.audited} {hook : Hook}
    {pair : PipelineDraft × PipelineHandle} (hpair : pair ∈ t.recorded hook) :
    (∀ infos location, hook ≠ .preparePipelines infos location) ∧
      ∀ pipeline, hook ≠ .pipelineDestroyed pipeline := by
  constructor
  · rintro infos location rfl
    exact absurd hpair List.not_mem_nil
  · rintro pipeline rfl
    exact absurd hpair List.not_mem_nil

/-- The modules of a draft that a hook records are held for its pipeline from then on. -/
theorem modulesOf_recorded {t : Session P.audited} {hook : Hook} (hallowed : t.Allows hook)
    {pair : PipelineDraft × PipelineHandle} (hpair : pair ∈ t.recorded hook) :
    (t.step hook).state.modulesOf pair.2 = pair.1.objects.modules := by
  obtain ⟨hprepare, hdestroy⟩ := ne_of_mem_recorded hpair
  exact (t.records_step hprepare hdestroy hallowed.2).recorded hallowed.1 pair hpair

/-- Assumes: that each pipeline gets a handle of its own, and no pending operation is forgotten. The
modules that the device has created and not destroyed are those of the ledger. Each module that was
destroyed was one of them, and the ledger has none twice if the device gives out fresh ones. The
modules of a pipeline that was recorded and not destroyed since are outstanding. -/
theorem outstanding_perm_ledger (settings : Settings) (device : P.DeviceState)
    (tools : P.ToolState) (storage : P.StorageState) (hooks : List Hook) :
    let first : Session P.audited := start settings (device, []) tools storage
    let last := first.run hooks
    first.Along Allows hooks →
    (outstanding last.state.calls).Perm last.ledger ∧
      destroysOutstanding last.state.calls = true ∧
      (createsFresh last.state.calls = true → last.ledger.Nodup) ∧
      ∀ older hook newer, hooks = older ++ hook :: newer →
        ∀ pair ∈ (first.run older).recorded hook, .pipelineDestroyed pair.2 ∉ newer →
          pair.1.objects.modules ⊆ outstanding last.state.calls := by
  intro first last hallowed
  have hstart : first.state.Holds first.ledger := ⟨List.Perm.refl _, rfl⟩
  have hlast : last.state.Holds last.ledger := holds_run hallowed hstart
  refine ⟨hlast.outstanding, hlast.sound, ?_, ?_⟩
  · intro hfresh
    exact hlast.outstanding.nodup_iff.mp (nodup_outstanding hfresh)
  · rintro older hook newer rfl pair hpair hkept module hmodule
    obtain ⟨-, hhook, hafter⟩ := along_append hallowed
    have hheld : module ∈ ((first.run older).step hook).state.modulesOf pair.2 := by
      rw [modulesOf_recorded hhook hpair]
      exact hmodule
    have hlater := modulesOf_subset_run hafter hkept hheld
    rw [← run_cons, ← run_append] at hlater
    refine hlast.outstanding.mem_iff.mpr ?_
    exact List.mem_append_right _ (modulesOf_subset _ _ hlater)

/-! ### Two creations on one operation -/

/-- A ray tracing pipeline whose code, a header and an access to a descriptor array, is in a
module. -/
def guardedRayTracing : PipelineInfo :=
  .rayTracing
    { flags := .empty
      stages := [⟨.empty, ⟨21⟩, some [0x07230203, 0x10300, 0, 16, 0, Simulation.arrayAccess], none,
        "main"⟩]
      groups := []
      maxRecursionDepth := 1
      layout := none
      activeSlots := .empty }

/-- A ray tracing pipeline is created, and the driver defers it. -/
def deferredRayTracing : List Hook :=
  [.preparePipelines [guardedRayTracing] "vkCreateRayTracingPipelinesKHR",
    .rayTracingPipelinesCreated 0 ⟨5⟩ .deferred []]

/-- One creation waits for the operation, is recorded when it is complete, and is destroyed. -/
theorem outstanding_perm_ledger_one_creation :
    let first : Session (Simulation.platform false {}).audited := start {} ({}, []) [] []
    let hooks := [.setUpDevice {}, .trackDeferred ⟨5⟩] ++ deferredRayTracing ++
      [.completeDeferred ⟨5⟩ [⟨9⟩]]
    first.Along Allows hooks ∧ createsFresh (first.run hooks).state.calls = true ∧
      (first.run hooks).ledger.length = 1 ∧ (first.run hooks).ledger.Nodup ∧
      (outstanding (first.run hooks).state.calls).Perm (first.run hooks).ledger := by
  intro first hooks
  have hallowed : first.Along Allows hooks := by decide +kernel
  have hfresh : createsFresh (first.run hooks).state.calls = true := by decide +kernel
  have hlength : (first.run hooks).ledger.length = 1 := by decide +kernel
  have hfirst : (start {} ({}, []) [] [] : Session (Simulation.platform false {}).audited) =
      first := rfl
  have hall := outstanding_perm_ledger (P := Simulation.platform false {}) {} {} [] [] hooks
  rw [hfirst] at hall
  obtain ⟨hperm, -, hnodup, -⟩ := hall hallowed
  exact ⟨hallowed, hfresh, hlength, hnodup hfresh, hperm⟩

/-- Two creations wait for one operation and are recorded under one handle: a module is outstanding
that is held nowhere. -/
theorem lost_on_shared_operation :
    let first : Session (Simulation.platform false {}).audited := start {} ({}, []) [] []
    let hooks := [.setUpDevice {}, .trackDeferred ⟨5⟩] ++ deferredRayTracing ++
      deferredRayTracing ++ [.completeDeferred ⟨5⟩ [⟨9⟩]]
    first.Along (fun t hook ↦ t.state.Unrecorded (givenHandles hook) ∧
        t.leavesPending hook = true) hooks ∧
      createsFresh (first.run hooks).state.calls = true ∧
      ¬ (outstanding (first.run hooks).state.calls).Perm (first.run hooks).ledger := by
  decide +kernel

end Session

end ShaderGuard
