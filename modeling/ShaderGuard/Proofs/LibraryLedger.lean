import ShaderGuard.Proofs.HeldLibraries
import ShaderGuard.Proofs.ModuleLedger
import ShaderGuard.Proofs.Untouched

/-!
# The ledger of libraries

Libraries that are created anew are held where modules are: in the drafts of creations that are
under way, in the drafts that wait for deferred operations, and for recorded pipelines
(`Session.libraryLedger`). Each hook destroys the libraries that end with it, and no others: those
of drafts that come to nothing and those of a pipeline that is destroyed (`Session.Settles`).

A draft has room for one library with a fragment stage and for one without. What else is created for
its pipeline is displaced. A run keeps the ledger and the device's account in step but for what is
displaced (`Session.created_perm_libraryLedger`), so it keeps them in step exactly if no two
libraries of one kind are created for a pipeline. With two of them, the first one is never destroyed
(`Session.lost_with_second_library`).
-/

set_option autoImplicit false

namespace ShaderGuard

variable {P : Platform}

namespace Session

open Instrumentor

/-! ### What a hook does with libraries -/

/-- The calls to the device that are made for each pipeline that a hook prepares. -/
def preparations (t : Session P.audited) : Hook → List (List DeviceCall)
  | .preparePipelines infos location => t.state.preparations infos location
  | _ => []

/-- The libraries that a hook creates for a pipeline and that no draft remembers. -/
def displaced (t : Session P.audited) (hook : Hook) : List PipelineHandle :=
  (t.preparations hook).flatMap displacedLibraries

/-- The drafts that a hook takes out of the session without recording them: their pipelines could
not be created, or nobody tracks the operation that they were to wait for. -/
def failed (t : Session P) : Hook → List PipelineDraft
  | .pipelinesCreated creation pipelines =>
    failedDrafts ((t.pipelines[creation]?).getD []) pipelines
  | .rayTracingPipelinesCreated creation operation result pipelines =>
    if operation.isNull || result != .deferred then
      failedDrafts ((t.pipelines[creation]?).getD []) pipelines
    else if t.state.deferred.isPending operation then []
    else (t.pipelines[creation]?).getD []
  | .completeDeferred operation pipelines =>
    (t.recordings operation).flatMap fun recording ↦ failedDrafts recording.drafts pipelines
  | _ => []

/-- The libraries that end with a hook: those of drafts that it takes out of the session without
recording them, and those of a pipeline that is destroyed. -/
def endedLibraries (t : Session P) : Hook → List PipelineHandle
  | .pipelineDestroyed pipeline => t.state.librariesOf pipeline
  | hook => draftLibraries (t.failed hook)

/-- The libraries that are held anywhere. -/
def libraryLedger (t : Session P) : List PipelineHandle :=
  draftLibraries t.drafts ++ t.state.recordedLibraries

/-- What a driver and a host keep to: beside what they keep to for modules, no library that is
created gets the null handle. -/
def AllowsLibraries (t : Session P.audited) (hook : Hook) : Prop :=
  t.Allows hook ∧
    ∀ library ∈ createdLibraries (t.preparations hook).flatten, library.isNull = false

instance (t : Session P.audited) (hook : Hook) : Decidable (t.AllowsLibraries hook) :=
  inferInstanceAs (Decidable (_ ∧ _))

/-! ### Hooks as recordings -/

theorem files_rayTracing (t : Session P.audited) (creation : Nat) (operation : DeferredHandle)
    (result : CreationResult) (pipelines : List PipelineHandle) :
    Files (t.handedOver (.rayTracingPipelinesCreated creation operation result pipelines))
      (t.failed (.rayTracingPipelinesCreated creation operation result pipelines))
      (t.recorded (.rayTracingPipelinesCreated creation operation result pipelines)) t.state
      (t.step (.rayTracingPipelinesCreated creation operation result pipelines)).state := by
  simp only [handedOver, failed, recorded, step, finishPipelines]
  cases hdrafts : t.pipelines[creation]? with
  | none => simpa [namedDrafts, failedDrafts] using Files.none (P := P) (s := t.state) rfl rfl
  | some drafts =>
    rcases t.state.rayTracingPipelinesCreated_cases drafts operation result pipelines with
      ⟨hnow, hafter⟩ | ⟨hnow, hpending, deferred, -, hafter⟩ | ⟨hnow, hpending, hafter⟩
    · simp only [Option.getD_some, hnow, Bool.true_or, if_true, hafter]
      exact Files.recordAll _ t.state drafts pipelines
    · simp only [hnow, hpending, Bool.not_true, Bool.or_self, Bool.false_eq_true, if_false, hafter]
      exact Files.none rfl rfl
    · simp only [Option.getD_some, hnow, hpending, Bool.not_false, Bool.or_true, if_true,
        Bool.false_eq_true, if_false, hafter]
      have hlogged : Files [] [] [] t.state (t.state.record (untrackedEntry operation)) :=
        Files.none rfl rfl
      exact hlogged.trans (Files.releaseAll _ drafts)

/-- Hooks that do not concern created pipelines and prepare none leave libraries alone. -/
theorem quiet_step (t : Session P.audited) {hook : Hook} (hrecords : hook.recordsOnly = false)
    (hprepare : ∀ infos location, hook ≠ .preparePipelines infos location) :
    OnlyLayouts t.state (t.step hook).state ∧
      (t.step hook).state.pipelines = t.state.pipelines := by
  by_cases hholdings : hook.leavesHoldings = true
  · exact ⟨onlyLayouts_step t hholdings hprepare, (sameHoldings_step t hholdings).pipelines⟩
  · cases hook with
    | moduleDestroyed module => exact ⟨rfl, rfl⟩
    | shaderObjectDestroyed object => exact ⟨rfl, rfl⟩
    | shaderObjectsCreated creation objects =>
      simp only [step, finishShaderObjects]
      split
      · exact ⟨rfl, rfl⟩
      · next drafts _ =>
        obtain ⟨registry, shaderObjects, hafter⟩ :=
          exists_shaderObjectsCreated_eq t.state drafts objects
        rw [hafter]
        exact ⟨rfl, rfl⟩
    | _ => first | (cases hrecords; done) | exact absurd rfl hholdings

/-- Every hook but those before creations and destructions of pipelines files what it hands over. -/
theorem files_step (t : Session P.audited) {hook : Hook}
    (hprepare : ∀ infos location, hook ≠ .preparePipelines infos location)
    (hdestroy : ∀ pipeline, hook ≠ .pipelineDestroyed pipeline)
    (hpending : t.leavesPending hook = true) :
    Files (t.handedOver hook) (t.failed hook) (t.recorded hook) t.state (t.step hook).state := by
  cases hrecords : hook.recordsOnly with
  | false =>
    obtain ⟨hlayouts, hpipelines⟩ := t.quiet_step hrecords hprepare
    have hnone : Files [] [] [] t.state (t.step hook).state := Files.none hlayouts hpipelines
    cases hook <;> first | exact hnone | cases hrecords
  | true =>
    cases hook with
    | pipelinesCreated creation pipelines =>
      simp only [handedOver, failed, recorded, step, finishPipelines]
      cases t.pipelines[creation]? with
      | none => exact Files.none rfl rfl
      | some drafts => exact Files.recordAll _ t.state drafts pipelines
    | rayTracingPipelinesCreated creation operation result pipelines =>
      exact t.files_rayTracing creation operation result pipelines
    | trackDeferred operation =>
      simp only [handedOver, waitingFor_of_not_pending hpending]
      exact Files.none rfl rfl
    | forgetDeferred operation =>
      simp only [handedOver, waitingFor_of_not_pending hpending]
      exact Files.none rfl rfl
    | completeDeferred operation pipelines =>
      have htaken : Files [] [] [] t.state { t.state with
          deferred := (DeferredQueue.pop t.state.deferred operation).2 } := Files.none rfl rfl
      exact htaken.trans (Files.completeDeferred (t.recordings operation) pipelines _)
    | pipelineDestroyed pipeline => exact absurd rfl (hdestroy pipeline)
    | _ => cases hrecords

/-! ### The ledger -/

/-- What the libraries of drafts add up to. -/
theorem perm_draftLibraries_step (t : Session P) (hook : Hook) :
    (draftLibraries t.drafts ++ draftLibraries (t.prepared hook)).Perm
      (draftLibraries (t.handedOver hook) ++ draftLibraries (t.step hook).drafts) := by
  have hdrafts := (t.perm_drafts_step hook).flatMap_right fun draft ↦ draft.objects.libraries
  rwa [List.flatMap_append, List.flatMap_append] at hdrafts

/-- Assumes: no null handles. What is created for pipelines is remembered in their drafts or
displaced. -/
theorem perm_created_of_hasLast {drafts : List PipelineDraft}
    {preparations : List (List DeviceCall)}
    (h : List.Forall₂ (fun draft calls ↦ draft.objects.HasLast calls) drafts preparations)
    (hnamed : ∀ library ∈ createdLibraries preparations.flatten, library.isNull = false) :
    (createdLibraries preparations.flatten).Perm
      (draftLibraries drafts ++ preparations.flatMap displacedLibraries) := by
  induction h with
  | nil => exact List.Perm.refl _
  | @cons draft calls drafts preparations hone _ ih =>
    unfold createdLibraries at hnamed ih ⊢
    rw [List.flatten_cons, List.filterMap_append] at hnamed ⊢
    have hfirst := hone.perm_libraries fun library hmem ↦
      hnamed library (List.mem_append_left _ hmem)
    have hrest := ih fun library hmem ↦ hnamed library (List.mem_append_right _ hmem)
    rw [draftLibraries, List.flatMap_cons, List.flatMap_cons]
    exact (hfirst.append hrest).trans (perm_append_append _ _ _ _)

/-- What a hook does with libraries: it creates those of its preparations and destroys those that
end with it, and whatever else was held or created is held afterwards, or it is displaced. -/
structure Settles (t : Session P.audited) (hook : Hook) : Prop where
  moves : Moves t.state (t.step hook).state (createdLibraries (t.preparations hook).flatten)
    (t.endedLibraries hook)
  balance : (t.libraryLedger ++ createdLibraries (t.preparations hook).flatten).Perm
    (t.endedLibraries hook ++ ((t.step hook).libraryLedger ++ t.displaced hook))

theorem settles_preparePipelines (t : Session P.audited) (infos : List PipelineInfo)
    (location : String) (hallowed : t.AllowsLibraries (.preparePipelines infos location)) :
    t.Settles (.preparePipelines infos location) := by
  have hbuilds := builds_preparePipelines t.state infos location
  constructor
  · have hmoves := Moves.of_asks hbuilds.asked
    rwa [hbuilds.destroyed] at hmoves
  · have hcreated := perm_created_of_hasLast hbuilds.last hallowed.2
    have hdrafts := t.perm_draftLibraries_step (.preparePipelines infos location)
    have hrecorded : (t.step (.preparePipelines infos location)).state.recordedLibraries =
        t.state.recordedLibraries := recordedLibraries_congr
      (SameHoldings.rewrites.preparePipelines t.state infos location).pipelines
    have hended : t.endedLibraries (.preparePipelines infos location) = [] := rfl
    have hhanded : draftLibraries (t.handedOver (.preparePipelines infos location)) = [] := rfl
    unfold libraryLedger displaced
    rw [hrecorded, hended, List.nil_append]
    rw [hhanded, List.nil_append] at hdrafts
    refine List.perm_iff_count.mpr fun library ↦ ?_
    have hcreated := hcreated.count_eq library
    have hdrafts := hdrafts.count_eq library
    simp only [List.count_append] at hcreated hdrafts ⊢
    show _ + List.count library (createdLibraries (t.state.preparations infos location).flatten) = _
    rw [hcreated]
    simp only [prepared, preparations] at hdrafts ⊢
    omega

theorem settles_pipelineDestroyed (t : Session P.audited) (pipeline : PipelineHandle) :
    t.Settles (.pipelineDestroyed pipeline) := by
  obtain ⟨hmoves, hrecorded⟩ := moves_pipelineDestroyed t.state pipeline
  refine ⟨hmoves, ?_⟩
  have hdrafts := t.perm_draftLibraries_step (.pipelineDestroyed pipeline)
  refine List.perm_iff_count.mpr fun library ↦ ?_
  have hdrafts := hdrafts.count_eq library
  have hrecorded := hrecorded.count_eq library
  simp only [libraryLedger, displaced, preparations, prepared, handedOver, endedLibraries, step,
    become, draftLibraries, createdLibraries, List.flatMap_nil, List.flatten_nil,
    List.filterMap_nil, List.count_append, List.count_nil] at *
  omega

/-- Assumes: handles of pipelines of their own. What is filed is destroyed or recorded. -/
theorem balance_of_files {t : Session P.audited} {hook : Hook} (hallowed : t.Allows hook)
    (hfiles : Files (t.handedOver hook) (t.failed hook) (t.recorded hook) t.state
      (t.step hook).state) (hnothing : t.prepared hook = []) :
    t.libraryLedger.Perm
      (draftLibraries (t.failed hook) ++ (t.step hook).libraryLedger) := by
  have hdrafts := t.perm_draftLibraries_step hook
  have hparts := hfiles.parts.flatMap_right fun draft ↦ draft.objects.libraries
  have hlibraries := hfiles.libraries hallowed.1
  rw [hnothing] at hdrafts
  refine List.perm_iff_count.mpr fun library ↦ ?_
  have hdrafts := hdrafts.count_eq library
  have hparts := hparts.count_eq library
  have hlibraries := hlibraries.count_eq library
  simp only [libraryLedger, draftLibraries, List.flatMap_append, List.flatMap_nil,
    List.count_append, List.count_nil] at *
  omega

/-- What every hook does with libraries. -/
theorem settles_step {t : Session P.audited} {hook : Hook} (hallowed : t.AllowsLibraries hook) :
    t.Settles hook := by
  by_cases hprepare : ∃ infos location, hook = .preparePipelines infos location
  · obtain ⟨infos, location, rfl⟩ := hprepare
    exact t.settles_preparePipelines infos location hallowed
  by_cases hdestroy : ∃ pipeline, hook = .pipelineDestroyed pipeline
  · obtain ⟨pipeline, rfl⟩ := hdestroy
    exact t.settles_pipelineDestroyed pipeline
  have hfiles := t.files_step (fun infos location heq ↦ hprepare ⟨infos, location, heq⟩)
    (fun pipeline heq ↦ hdestroy ⟨pipeline, heq⟩) hallowed.1.2
  have hnothing : t.prepared hook = [] ∧ t.preparations hook = [] := by
    cases hook <;> first | exact ⟨rfl, rfl⟩ | exact absurd ⟨_, _, rfl⟩ hprepare
  have hended : t.endedLibraries hook = draftLibraries (t.failed hook) := by
    cases hook <;> first | rfl | exact absurd ⟨_, rfl⟩ hdestroy
  have hbalance := balance_of_files hallowed.1 hfiles hnothing.1
  constructor
  · rw [hnothing.2, hended]
    exact hfiles.moves
  · rw [displaced, hnothing.2, hended]
    simpa [createdLibraries] using hbalance

/-- That the libraries that the device has created are those that it has destroyed, those of the
ledger and some that are lost. -/
def Accounted (t : Session P.audited) (lost : List PipelineHandle) : Prop :=
  (createdLibraries t.state.calls).Perm
    (destroyedLibraries t.state.calls ++ (t.libraryLedger ++ lost))

theorem accounted_step {t : Session P.audited} {hook : Hook} {lost : List PipelineHandle}
    (h : t.Accounted lost) (hsettles : t.Settles hook) :
    (t.step hook).Accounted (lost ++ t.displaced hook) := by
  unfold Accounted at h ⊢
  rw [hsettles.moves.created, hsettles.moves.destroyed]
  refine List.perm_iff_count.mpr fun library ↦ ?_
  have hbefore := h.count_eq library
  have hbalance := hsettles.balance.count_eq library
  simp only [List.count_append, List.count_reverse] at *
  omega

/-- A run keeps the account, and what is lost in it is what its hooks displace. -/
theorem accounted_run {t : Session P.audited} {hooks : List Hook} {lost : List PipelineHandle}
    (hallowed : t.Along AllowsLibraries hooks) (h : t.Accounted lost) :
    (t.run hooks).Accounted (lost ++ collect displaced t hooks) := by
  induction hooks generalizing t lost with
  | nil =>
    rw [collect, List.append_nil]
    exact h
  | cons hook rest ih =>
    rw [collect, ← List.append_assoc]
    exact ih hallowed.2 (accounted_step h (settles_step hallowed.1))

/-- Nothing is displaced exactly if no two libraries of one kind are created for a pipeline. -/
theorem displacedLibraries_eq_nil_iff (calls : List DeviceCall) : displacedLibraries calls = [] ↔
    ∀ fragment, (createdLibrariesOf fragment calls).length ≤ 1 := by
  have hnil (handles : List PipelineHandle) : handles.dropLast = [] ↔ handles.length ≤ 1 := by
    rw [← List.length_eq_zero_iff, List.length_dropLast]
    omega
  unfold displacedLibraries
  rw [List.append_eq_nil_iff, hnil, hnil, Bool.forall_bool]

theorem collect_displaced_eq_nil_iff (t : Session P.audited) (hooks : List Hook) :
    collect displaced t hooks = [] ↔ ∀ older hook newer, hooks = older ++ hook :: newer →
      ∀ calls ∈ (t.run older).preparations hook, ∀ fragment,
        (createdLibrariesOf fragment calls).length ≤ 1 := by
  constructor
  · intro hnone older hook newer hhooks calls hcalls
    refine (displacedLibraries_eq_nil_iff calls).mp (List.eq_nil_iff_forall_not_mem.mpr ?_)
    intro library hlibrary
    have hcollected : library ∈ collect displaced t hooks := mem_collect_iff.mpr
      ⟨older, hook, newer, hhooks, List.mem_flatMap.mpr ⟨calls, hcalls, hlibrary⟩⟩
    rw [hnone] at hcollected
    exact absurd hcollected List.not_mem_nil
  · intro hfew
    refine List.eq_nil_iff_forall_not_mem.mpr fun library hcollected ↦ ?_
    obtain ⟨older, hook, newer, hhooks, hlibrary⟩ := mem_collect_iff.mp hcollected
    obtain ⟨calls, hcalls, hlibrary⟩ := List.mem_flatMap.mp hlibrary
    have hnone := (displacedLibraries_eq_nil_iff calls).mpr
      (hfew older hook newer hhooks calls hcalls)
    rw [hnone] at hlibrary
    exact absurd hlibrary List.not_mem_nil

/-! ### Recorded pipelines -/

/-- The libraries of a draft that a hook records are held for its pipeline from then on. -/
theorem librariesOf_recorded {t : Session P.audited} {hook : Hook} (hallowed : t.Allows hook)
    {pair : PipelineDraft × PipelineHandle} (hpair : pair ∈ t.recorded hook) :
    (t.step hook).state.librariesOf pair.2 = pair.1.objects.libraries := by
  obtain ⟨hprepare, hdestroy⟩ := ne_of_mem_recorded hpair
  exact (t.files_step hprepare hdestroy hallowed.2).remembered hallowed.1 pair hpair

/-- The libraries of a recorded pipeline are held until it is destroyed. -/
theorem librariesOf_subset_run {t : Session P.audited} {hooks : List Hook}
    (hallowed : t.Along Allows hooks) {pipeline : PipelineHandle}
    (hkept : .pipelineDestroyed pipeline ∉ hooks) :
    t.state.librariesOf pipeline ⊆ (t.run hooks).state.librariesOf pipeline :=
  remembered_subset_run PipelineObjects.libraries hallowed hkept

theorem along_allows {t : Session P.audited} {hooks : List Hook}
    (h : t.Along AllowsLibraries hooks) : t.Along Allows hooks := by
  induction hooks generalizing t with
  | nil => exact trivial
  | cons hook rest ih => exact ⟨h.1.1, ih h.2⟩

/-- Assumes: that each pipeline gets a handle of its own, no pending operation is forgotten, and no
library gets the null handle. The libraries that the device has created are those that it has
destroyed, those of the ledger and the displaced ones, and none of them is there twice if the device
gives out fresh handles. No library is lost exactly if no two of one kind are created for a
pipeline. A draft remembers the last one of each kind; a hook creates those of its preparations and
destroys those that end with it; and those of a recorded pipeline are held until it is destroyed. -/
theorem created_perm_libraryLedger (settings : Settings) (device : P.DeviceState)
    (tools : P.ToolState) (storage : P.StorageState) (hooks : List Hook) :
    let first : Session P.audited := start settings (device, []) tools storage
    let last := first.run hooks
    first.Along AllowsLibraries hooks →
    last.Accounted (collect displaced first hooks) ∧
      ((createdLibraries last.state.calls).Nodup → (destroyedLibraries last.state.calls ++
        (last.libraryLedger ++ collect displaced first hooks)).Nodup) ∧
      (last.Accounted [] ↔ ∀ older hook newer, hooks = older ++ hook :: newer →
        ∀ calls ∈ (first.run older).preparations hook, ∀ fragment,
          (createdLibrariesOf fragment calls).length ≤ 1) ∧
      ∀ older hook newer, hooks = older ++ hook :: newer →
        let t := first.run older
        List.Forall₂ (fun draft calls ↦ draft.objects.HasLast calls) (t.prepared hook)
            (t.preparations hook) ∧
          Moves t.state (t.step hook).state (createdLibraries (t.preparations hook).flatten)
            (t.endedLibraries hook) ∧
          ∀ pair ∈ t.recorded hook, ∀ middle later, newer = middle ++ later →
            .pipelineDestroyed pair.2 ∉ middle →
              pair.1.objects.libraries ⊆ ((t.step hook).run middle).state.librariesOf pair.2 := by
  intro first last hallowed
  have hstart : first.Accounted [] := List.Perm.refl _
  have hlast : last.Accounted (collect displaced first hooks) := accounted_run hallowed hstart
  refine ⟨hlast, fun hfresh ↦ hlast.nodup_iff.mp hfresh, ?_, ?_⟩
  · rw [← collect_displaced_eq_nil_iff]
    constructor
    · intro hall
      have hlength := hlast.length_eq.symm.trans hall.length_eq
      simp only [List.length_append, List.length_nil] at hlength
      exact List.length_eq_zero_iff.mp (by omega)
    · intro hnone
      rwa [hnone] at hlast
  · rintro older hook newer rfl t
    obtain ⟨-, hhook, hafter⟩ := along_append hallowed
    refine ⟨?_, (settles_step hhook).moves, ?_⟩
    · cases hook with
      | preparePipelines infos location =>
        exact (builds_preparePipelines t.state infos location).last
      | _ => exact List.Forall₂.nil
    · rintro pair hpair middle later rfl hkept
      have hmiddle := (along_append (along_allows hafter)).1
      have hheld := librariesOf_subset_run hmiddle hkept
      rwa [librariesOf_recorded hhook.1 hpair] at hheld

/-- A library with a stage that has no instructions. -/
def libraryOf (handle : PipelineHandle) (stages : ShaderStages) : GraphicsLibrary :=
  ⟨handle, plainInfo [⟨stages, ⟨21⟩, some [0x07230203, 0x10300, 0, 16, 0], none, "main"⟩] []⟩

/-- A pipeline that is linked from some libraries is created, recorded under a handle, which is null
if it could not be created, and destroyed. -/
def linkedAndDestroyed (libraries : List GraphicsLibrary) (pipeline : PipelineHandle) : List Hook :=
  [.setUpDevice {}, .preparePipelines [.graphics (plainInfo [] libraries)]
      "vkCreateGraphicsPipelines",
    .pipelinesCreated 0 [pipeline], .pipelineDestroyed pipeline]

/-- A library with a fragment stage and one without are destroyed with the pipeline. -/
theorem created_perm_libraryLedger_two_kinds :
    let first : Session (Simulation.platform false {}).audited := start {} ({}, []) [] []
    let hooks := linkedAndDestroyed [libraryOf ⟨30⟩ .empty, libraryOf ⟨31⟩ .fragment] ⟨9⟩
    let last := first.run hooks
    first.Along AllowsLibraries hooks ∧ (createdLibraries last.state.calls).length = 2 ∧
      last.libraryLedger = [] ∧
      (createdLibraries last.state.calls).Perm (destroyedLibraries last.state.calls) := by
  intro first hooks last
  have hallowed : first.Along AllowsLibraries hooks := by decide +kernel
  have hcreated : (createdLibraries last.state.calls).length = 2 := by decide +kernel
  have hledger : last.libraryLedger = [] := by decide +kernel
  have hnone : collect displaced first hooks = [] := by decide +kernel
  have hfirst : (start {} ({}, []) [] [] : Session (Simulation.platform false {}).audited) =
      first := rfl
  have hall := created_perm_libraryLedger (P := Simulation.platform false {}) {} {} [] [] hooks
  rw [hfirst] at hall
  obtain ⟨haccounted, -⟩ := hall hallowed
  unfold Accounted at haccounted
  rw [hnone] at haccounted
  have hperm : (createdLibraries last.state.calls).Perm
      (destroyedLibraries last.state.calls ++ (last.libraryLedger ++ [])) := haccounted
  rw [hledger] at hperm
  exact ⟨hallowed, hcreated, hledger, by simpa using hperm⟩

/-- Of two libraries without a fragment stage one is destroyed with the pipeline, and the other is
lost. -/
theorem lost_with_second_library :
    let first : Session (Simulation.platform false {}).audited := start {} ({}, []) [] []
    let hooks := linkedAndDestroyed [libraryOf ⟨30⟩ .empty, libraryOf ⟨31⟩ .empty] ⟨9⟩
    let last := first.run hooks
    first.Along AllowsLibraries hooks ∧
      createdLibraries last.state.calls = [⟨0x10004⟩, ⟨0x10003⟩] ∧
      destroyedLibraries last.state.calls = [⟨0x10004⟩] ∧ last.libraryLedger = [] := by
  decide +kernel

end Session

end ShaderGuard
