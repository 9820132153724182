import Mathlib.Data.List.Induction
import ShaderGuard.Proofs.ModuleLedger

/-!
# Deferred creation

The driver may put the creation of ray tracing pipelines off until an operation is complete. What is
to be recorded then is decided at once, and is recorded in a state that any number of hooks have
changed since. Two schedules are compared. In one the library is told of every creation that is put
off; in the other (`Session.stepWithout`) it is told of none of those that wait for one operation,
and their drafts are dropped. The two states differ in what waits for the operation and in nothing
else (`Session.run_withWaiting`), so that a creation leaves no trace before the operation is
complete, and the completion does what creations would do that end in that moment
(`Session.completed_as_created`).
-/

set_option autoImplicit false

namespace ShaderGuard

variable {P : Platform}

/-- A creation that is put off: its drafts, and the subsystem as it is at the time. -/
structure Deferral where
  drafts : List PipelineDraft
  subsystem : Subsystem

/-- What waits for the operation. -/
def Deferral.recording (deferral : Deferral) : Recording :=
  ⟨deferral.drafts, deferral.subsystem.isInstrumenting⟩

namespace Instrumentor

/-! ### The list of one operation -/

/-- The state with another list of what waits for an operation. -/
def withWaiting (s : Instrumentor P) (operation : DeferredHandle) (waiting : List Recording) :
    Instrumentor P :=
  s.withDeferred (s.deferred.insert operation waiting)

theorem besidesRecords_withWaiting (operation : DeferredHandle) (waiting : List Recording) :
    BesidesRecords fun s : Instrumentor P ↦ s.withWaiting operation waiting :=
  fun _ _ _ _ _ ↦ rfl

theorem get?_withWaiting_of_ne (s : Instrumentor P) {operation other : DeferredHandle}
    (h : operation ≠ other) (waiting : List Recording) :
    (s.withWaiting operation waiting).deferred.get? other = s.deferred.get? other :=
  Table.get?_insert_of_ne s.deferred waiting h

theorem deferPipelines_of_get?_eq_some {s : Instrumentor P} {operation : DeferredHandle}
    {waiting : List Recording} (h : s.deferred.get? operation = some waiting)
    (drafts : List PipelineDraft) :
    s.deferPipelines drafts operation =
      s.withWaiting operation (waiting ++ [⟨drafts, s.isInstrumenting⟩]) := by
  unfold deferPipelines DeferredQueue.append
  rw [h]
  rfl

theorem deferPipelines_of_get?_eq_none {s : Instrumentor P} {operation : DeferredHandle}
    (h : s.deferred.get? operation = none) (drafts : List PipelineDraft) :
    s.deferPipelines drafts operation =
      drafts.foldl (fun s draft ↦ s.release draft.objects)
        (s.record (untrackedEntry operation)) := by
  unfold deferPipelines DeferredQueue.append
  rw [h]
  rfl

/-- Drafts that are put off until an operation wait behind those that do. -/
theorem deferPipelines_withWaiting_self (s : Instrumentor P) (operation : DeferredHandle)
    (waiting : List Recording) (drafts : List PipelineDraft) :
    (s.withWaiting operation waiting).deferPipelines drafts operation =
      s.withWaiting operation (waiting ++ [⟨drafts, s.isInstrumenting⟩]) := by
  have hwaiting : (s.withWaiting operation waiting).deferred.get? operation = some waiting :=
    Table.get?_insert_self s.deferred operation waiting
  rw [deferPipelines_of_get?_eq_some hwaiting]
  exact congrArg s.withDeferred (Table.insert_insert s.deferred operation waiting _)

/-- Drafts that wait for one operation have nothing to do with another. -/
theorem deferPipelines_withWaiting (s : Instrumentor P) {operation other : DeferredHandle}
    (h : operation ≠ other) (waiting : List Recording) (drafts : List PipelineDraft) :
    (s.withWaiting operation waiting).deferPipelines drafts other =
      (s.deferPipelines drafts other).withWaiting operation waiting := by
  have hother := s.get?_withWaiting_of_ne h waiting
  cases hwaiting : s.deferred.get? other with
  | none =>
    rw [hwaiting] at hother
    rw [deferPipelines_of_get?_eq_none hother, deferPipelines_of_get?_eq_none hwaiting]
    exact (besidesRecords_withWaiting operation waiting).releaseAll (s.record _) drafts
  | some before =>
    rw [hwaiting] at hother
    rw [deferPipelines_of_get?_eq_some hother, deferPipelines_of_get?_eq_some hwaiting]
    exact congrArg s.withDeferred (Table.insert_comm s.deferred h waiting _)

/-- A completion records what has waited, in a queue that has nothing to do with it. -/
theorem completeDeferred_eq (s : Instrumentor P) (operation : DeferredHandle)
    (pipelines : List PipelineHandle) :
    s.completeDeferred operation pipelines =
      (((s.deferred.get? operation).getD []).length,
        (((s.deferred.get? operation).getD []).foldl
          (fun s recording ↦ recordAll recording.register s recording.drafts pipelines)
          s).withDeferred (s.deferred.erase operation)) := by
  exact Prod.ext rfl ((besidesRecords_withDeferred _).recordWaiting s _ pipelines)

/-- The completion of one operation has nothing to do with another. -/
theorem completeDeferred_withWaiting (s : Instrumentor P) {operation other : DeferredHandle}
    (h : operation ≠ other) (waiting : List Recording) (pipelines : List PipelineHandle) :
    ((s.withWaiting operation waiting).completeDeferred other pipelines).2 =
      (s.completeDeferred other pipelines).2.withWaiting operation waiting := by
  have hrecorded := (besidesRecords_withWaiting operation waiting).recordWaiting s
    ((s.deferred.get? other).getD []) pipelines
  have herased : (s.withWaiting operation waiting).deferred.erase other =
      (s.deferred.erase other).insert operation waiting :=
    Table.erase_insert_of_ne s.deferred h waiting
  rw [completeDeferred_eq, completeDeferred_eq, get?_withWaiting_of_ne s h, hrecorded, herased]
  rfl

/-- Nothing is recorded for an operation that is not pending. -/
theorem completeDeferred_of_get?_eq_none {s : Instrumentor P} {operation : DeferredHandle}
    (h : s.deferred.get? operation = none) (pipelines : List PipelineHandle) :
    s.completeDeferred operation pipelines = (0, s) := by
  rw [completeDeferred_eq, h, Table.erase_of_get?_eq_none h]
  rfl

/-! ### Creations in another state -/

/-- What the hook after a creation does if the subsystem is, for its time, another one. -/
def createdUnder (pipelines : List PipelineHandle) (s : Instrumentor P) (deferral : Deferral) :
    Instrumentor P :=
  { ({ s with subsystem := deferral.subsystem }).pipelinesCreated deferral.drafts pipelines with
    subsystem := s.subsystem }

theorem recordAll_recording (pipelines : List PipelineHandle) (s : Instrumentor P)
    (deferral : Deferral) :
    recordAll deferral.recording.register s deferral.recording.drafts pipelines =
      s.createdUnder pipelines deferral := by
  have hbesides (subsystem : Subsystem) :
      BesidesRecords fun s : Instrumentor P ↦ { s with subsystem } := fun _ _ _ _ _ ↦ rfl
  unfold createdUnder pipelinesCreated
  rw [(hbesides deferral.subsystem).recordAll]
  exact (hbesides s.subsystem).recordAll s deferral.recording.register deferral.drafts pipelines

end Instrumentor

/-- Whether a hook neither completes an operation nor forgets it nor tracks it anew. -/
def Hook.leavesOperation (operation : DeferredHandle) : Hook → Bool
  | .trackDeferred other | .forgetDeferred other | .completeDeferred other _ => other != operation
  | _ => true

namespace Session

open Instrumentor

/-! ### Two schedules -/

/-- The session with another list of what waits for an operation. -/
def withWaiting (t : Session P) (operation : DeferredHandle) (waiting : List Recording) :
    Session P :=
  { t with state := t.state.withWaiting operation waiting }

/-- The creations that a hook puts off until an operation is complete. -/
def deferrals (operation : DeferredHandle) (t : Session P) : Hook → List Deferral
  | .rayTracingPipelinesCreated creation other result _ =>
    if other.isNull || result != .deferred || other != operation then []
    else (t.pipelines[creation]?).toList.map fun drafts ↦ ⟨drafts, t.state.subsystem⟩
  | _ => []

/-- One hook of the schedule in which the library is not told of the creations that are put off
until an operation is complete. Their drafts are dropped. -/
def stepWithout (operation : DeferredHandle) (t : Session P) : Hook → Session P
  | .rayTracingPipelinesCreated creation other result pipelines =>
    if other.isNull || result != .deferred || other != operation then
      t.step (.rayTracingPipelinesCreated creation other result pipelines)
    else t.finishPipelines creation fun _ ↦ t.state
  | hook => t.step hook

/-- A run in that schedule. -/
def runWithout (operation : DeferredHandle) (t : Session P) (hooks : List Hook) : Session P :=
  hooks.foldl (stepWithout operation) t

theorem get?_of_isPending {t : Session P} {operation : DeferredHandle}
    (h : t.state.deferred.isPending operation = true) :
    t.state.deferred.get? operation = some (t.recordings operation) := by
  unfold DeferredQueue.isPending Table.contains at h
  unfold recordings
  cases hwaiting : t.state.deferred.get? operation with
  | none => rw [hwaiting] at h; cases h
  | some waiting => rfl

theorem isPending_of_get?_eq_some {t : Session P} {operation : DeferredHandle}
    {waiting : List Recording} (h : t.state.deferred.get? operation = some waiting) :
    t.state.deferred.isPending operation = true :=
  congrArg Option.isSome h

theorem recordings_of_get?_eq_some {t : Session P} {operation : DeferredHandle}
    {waiting : List Recording} (h : t.state.deferred.get? operation = some waiting) :
    t.recordings operation = waiting :=
  congrArg (Option.getD · []) h

@[simp] theorem recordings_withWaiting (t : Session P) (operation : DeferredHandle)
    (waiting : List Recording) : (t.withWaiting operation waiting).recordings operation = waiting :=
  recordings_of_get?_eq_some (Table.get?_insert_self t.state.deferred operation waiting)

@[simp] theorem isPending_withWaiting (t : Session P) (operation : DeferredHandle)
    (waiting : List Recording) :
    (t.withWaiting operation waiting).state.deferred.isPending operation = true :=
  isPending_of_get?_eq_some (Table.get?_insert_self t.state.deferred operation waiting)

/-- Putting the list of an operation where it stands changes nothing. -/
theorem withWaiting_recordings {t : Session P} {operation : DeferredHandle}
    (h : t.state.deferred.isPending operation = true) :
    t.withWaiting operation (t.recordings operation) = t := by
  have hsame := Table.insert_of_get? (get?_of_isPending h)
  unfold withWaiting Instrumentor.withWaiting
  rw [hsame]
  rfl

/-- What has been said of one hook, for the hook after the creation of ray tracing pipelines: it
records them at once, puts them off until the operation, or puts them off until another one. -/
private theorem step_rayTracing_withWaiting (t : Session P) (operation : DeferredHandle)
    (waiting : List Recording) (creation : Nat) (other : DeferredHandle) (result : CreationResult)
    (pipelines : List PipelineHandle) :
    let hook := .rayTracingPipelinesCreated creation other result pipelines
    (t.withWaiting operation waiting).step hook =
      (t.stepWithout operation hook).withWaiting operation
        (waiting ++ (t.deferrals operation hook).map Deferral.recording) := by
  intro hook
  have hcreations : (t.withWaiting operation waiting).pipelines = t.pipelines := rfl
  have hstate : (t.withWaiting operation waiting).state = t.state.withWaiting operation waiting :=
    rfl
  simp only [hook, step, stepWithout, deferrals, finishPipelines, hcreations, hstate,
    rayTracingPipelinesCreated]
  by_cases hnow : (other.isNull || result != .deferred) = true
  · have hrecorded (drafts : List PipelineDraft) :
        (t.state.withWaiting operation waiting).pipelinesCreated drafts pipelines =
          (t.state.pipelinesCreated drafts pipelines).withWaiting operation waiting :=
      (besidesRecords_withWaiting operation waiting).recordAll t.state _ drafts pipelines
    simp only [hnow, Bool.true_or, if_true, List.map_nil, List.append_nil, hrecorded]
    split <;> rfl
  · rw [Bool.not_eq_true] at hnow
    simp only [hnow, Bool.false_or, Bool.false_eq_true, if_false]
    by_cases hother : other = operation
    · subst hother
      have hput (drafts : List PipelineDraft) :=
        t.state.deferPipelines_withWaiting_self other waiting drafts
      simp only [bne_self_eq_false, Bool.false_eq_true, if_false, hput]
      cases t.pipelines[creation]? with
      | none => simp
      | some drafts => rfl
    · have hput (drafts : List PipelineDraft) :=
        t.state.deferPipelines_withWaiting (Ne.symm hother) waiting drafts
      simp only [bne_iff_ne.mpr hother, if_true, List.map_nil, List.append_nil, hput]
      split <;> rfl

/-- In the two schedules a hook does the same but for what waits for the operation. -/
theorem step_withWaiting (t : Session P) {operation : DeferredHandle} (waiting : List Recording)
    {hook : Hook} (h : hook.leavesOperation operation = true) :
    (t.withWaiting operation waiting).step hook =
      (t.stepWithout operation hook).withWaiting operation
        (waiting ++ (t.deferrals operation hook).map Deferral.recording) := by
  by_cases hdeferred : hook.leavesDeferred = true
  · have hstep := t.step_withDeferred (t.state.deferred.insert operation waiting) hdeferred
    have hkept := t.deferred_step hdeferred
    have hwithout : t.stepWithout operation hook = t.step hook := by
      cases hook <;> first | rfl | cases hdeferred
    have hnone : t.deferrals operation hook = [] := by
      cases hook <;> first | rfl | cases hdeferred
    unfold withWaiting Instrumentor.withWaiting
    rw [hwithout, hnone, List.map_nil, List.append_nil, hkept]
    exact hstep
  · cases hook with
    | trackDeferred other =>
      have hne : operation ≠ other := (bne_iff_ne.mp h).symm
      have hcomm := Table.insert_comm t.state.deferred hne waiting []
      simp only [deferrals, List.map_nil, List.append_nil]
      exact congrArg t.withDeferred hcomm
    | forgetDeferred other =>
      have hne : operation ≠ other := (bne_iff_ne.mp h).symm
      have herased := Table.erase_insert_of_ne t.state.deferred hne waiting
      simp only [deferrals, List.map_nil, List.append_nil]
      exact congrArg t.withDeferred herased
    | completeDeferred other pipelines =>
      have hne : operation ≠ other := (bne_iff_ne.mp h).symm
      simp only [deferrals, List.map_nil, List.append_nil]
      exact congrArg t.become (t.state.completeDeferred_withWaiting hne waiting pipelines)
    | rayTracingPipelinesCreated creation other result pipelines =>
      exact t.step_rayTracing_withWaiting operation waiting creation other result pipelines
    | _ => exact absurd rfl hdeferred

/-- In the two schedules a run does the same but for what waits for the operation: the creations
that have been put off, in the order of the run. -/
theorem run_withWaiting (t : Session P) {operation : DeferredHandle} (waiting : List Recording)
    {hooks : List Hook} (h : ∀ hook ∈ hooks, hook.leavesOperation operation = true) :
    (t.withWaiting operation waiting).run hooks =
      (t.runWithout operation hooks).withWaiting operation
        (waiting ++ (collect (deferrals operation) (t.withWaiting operation waiting) hooks).map
          Deferral.recording) := by
  induction hooks generalizing t waiting with
  | nil => simp [collect, runWithout]
  | cons hook rest ih =>
    obtain ⟨hhook, hrest⟩ := List.forall_mem_cons.mp h
    have hstep := t.step_withWaiting waiting hhook
    have hsame : (t.withWaiting operation waiting).deferrals operation hook =
        t.deferrals operation hook := by
      cases hook <;> rfl
    rw [run_cons, collect, hstep, ih (t.stepWithout operation hook) _ hrest, hsame, List.map_append,
      List.append_assoc]
    rfl

/-- In the schedule without it, a creation that is put off changes nothing but the creations under
way. -/
theorem state_stepWithout_of_deferrals_ne_nil {t : Session P} {operation : DeferredHandle}
    {hook : Hook} (h : t.deferrals operation hook ≠ []) :
    (t.stepWithout operation hook).state = t.state := by
  cases hook with
  | rayTracingPipelinesCreated creation other result pipelines =>
    simp only [deferrals, stepWithout, finishPipelines] at h ⊢
    split at h
    · exact absurd rfl h
    · next hlater =>
      rw [if_neg hlater]
      split <;> rfl
  | _ => exact absurd rfl h

/-- A creation that is put off until a pending operation changes nothing but what waits for it. -/
theorem state_step_of_deferrals_ne_nil {t : Session P} {operation : DeferredHandle}
    (hpending : t.state.deferred.isPending operation = true) {hook : Hook}
    (h : t.deferrals operation hook ≠ []) :
    (t.step hook).state = t.state.withWaiting operation
      (t.recordings operation ++ (t.deferrals operation hook).map Deferral.recording) := by
  have hleaves : hook.leavesOperation operation = true := by
    cases hook <;> first | rfl | exact absurd rfl h
  have hstep := t.step_withWaiting (t.recordings operation) hleaves
  rw [withWaiting_recordings hpending] at hstep
  rw [hstep]
  show (t.stepWithout operation hook).state.withWaiting operation _ = _
  rw [state_stepWithout_of_deferrals_ne_nil h]

/-! ### Since an operation was tracked -/

/-- An operation that is not pending stays so until it is tracked. -/
theorem get?_step_eq_none {t : Session P} {operation : DeferredHandle}
    (hnone : t.state.deferred.get? operation = none) {hook : Hook}
    (htrack : hook ≠ .trackDeferred operation) :
    (t.step hook).state.deferred.get? operation = none := by
  have herased (other : DeferredHandle) : (t.state.deferred.erase other).get? operation = none := by
    rw [Table.get?_erase, hnone, ite_self]
  by_cases hdeferred : hook.leavesDeferred = true
  · rwa [t.deferred_step hdeferred]
  · cases hook with
    | trackDeferred other =>
      have hne : other ≠ operation := fun heq ↦ htrack (by rw [heq])
      exact (Table.get?_insert_of_ne t.state.deferred [] hne).trans hnone
    | forgetDeferred other => exact herased other
    | completeDeferred other pipelines =>
      have hafter := congrArg (fun after ↦ after.2.deferred.get? operation)
        (t.state.completeDeferred_eq other pipelines)
      exact hafter.trans (herased other)
    | rayTracingPipelinesCreated creation other result pipelines =>
      simp only [step, finishPipelines]
      split
      · exact hnone
      · next drafts _ =>
        rcases t.state.rayTracingPipelinesCreated_cases drafts other result pipelines with
          ⟨-, hafter⟩ | ⟨-, -, deferred, happend, hafter⟩ | ⟨-, -, hafter⟩ <;> simp only [hafter]
        · rwa [pipelinesCreated, deferred_recordAll]
        · have hne : other ≠ operation := by
            rintro rfl
            obtain ⟨waiting, hwaiting, -⟩ := DeferredQueue.get?_of_append happend
            cases hnone.symm.trans hwaiting
          exact (DeferredQueue.get?_of_append_of_ne happend hne).trans hnone
        · rwa [deferred_releaseAll]
    | _ => exact absurd rfl hdeferred

theorem get?_run_eq_none {t : Session P} {operation : DeferredHandle}
    (hnone : t.state.deferred.get? operation = none) {hooks : List Hook}
    (htrack : .trackDeferred operation ∉ hooks) :
    (t.run hooks).state.deferred.get? operation = none := by
  induction hooks generalizing t with
  | nil => exact hnone
  | cons hook rest ih =>
    have hhook : hook ≠ .trackDeferred operation := (List.ne_of_not_mem_cons htrack).symm
    exact ih (get?_step_eq_none hnone hhook) (List.not_mem_of_not_mem_cons htrack)

/-- A hook behind which an operation is pending has tracked it or left it alone. -/
theorem leavesOperation_of_isPending_step {t : Session P} {operation : DeferredHandle} {hook : Hook}
    (hpending : (t.step hook).state.deferred.isPending operation = true)
    (htrack : hook ≠ .trackDeferred operation) : hook.leavesOperation operation = true := by
  have herased (other : DeferredHandle)
      (hafter : (t.step hook).state.deferred = t.state.deferred.erase other) :
      other ≠ operation := by
    rintro rfl
    rw [hafter, DeferredQueue.isPending, Table.contains, Table.get?_erase_self] at hpending
    cases hpending
  cases hook with
  | trackDeferred other => exact bne_iff_ne.mpr fun heq ↦ htrack (by rw [heq])
  | forgetDeferred other => exact bne_iff_ne.mpr (herased other rfl)
  | completeDeferred other pipelines =>
    refine bne_iff_ne.mpr (herased other ?_)
    exact congrArg (fun after ↦ after.2.deferred) (t.state.completeDeferred_eq other pipelines)
  | _ => rfl

/-- Behind hooks that leave a pending operation alone: the two schedules, and what waits. -/
theorem run_eq_withWaiting {t : Session P} {operation : DeferredHandle}
    (hpending : t.state.deferred.isPending operation = true) {hooks : List Hook}
    (h : ∀ hook ∈ hooks, hook.leavesOperation operation = true) :
    t.run hooks = (t.runWithout operation hooks).withWaiting operation
      (t.recordings operation ++ (collect (deferrals operation) t hooks).map
        Deferral.recording) := by
  have hrun := t.run_withWaiting (t.recordings operation) h
  rwa [withWaiting_recordings hpending] at hrun

/-- A pending operation has been tracked, and left alone since it was tracked last. -/
theorem exists_since_tracked {first : Session P} {operation : DeferredHandle}
    (hfirst : first.state.deferred.get? operation = none) {hooks : List Hook}
    (hpending : (first.run hooks).state.deferred.isPending operation = true) :
    ∃ older since, hooks = older ++ .trackDeferred operation :: since ∧
      ∀ hook ∈ since, hook.leavesOperation operation = true := by
  induction hooks using List.reverseRecOn with
  | nil =>
    rw [run_nil, DeferredQueue.isPending, Table.contains, hfirst] at hpending
    cases hpending
  | append_singleton hooks hook ih =>
    have hrun : first.run (hooks ++ [hook]) = (first.run hooks).step hook := run_append first _ _
    rw [hrun] at hpending
    by_cases htrack : hook = .trackDeferred operation
    · exact ⟨hooks, [], by rw [htrack], by simp⟩
    · have hbefore : (first.run hooks).state.deferred.isPending operation = true := by
        by_contra hnot
        have hnone : (first.run hooks).state.deferred.get? operation = none := by
          simpa [DeferredQueue.isPending, Table.contains] using hnot
        rw [DeferredQueue.isPending, Table.contains, get?_step_eq_none hnone htrack] at hpending
        cases hpending
      have hleaves := leavesOperation_of_isPending_step hpending htrack
      obtain ⟨older, since, rfl, hsince⟩ := ih hbefore
      refine ⟨older, since ++ [hook], by simp, fun other hother ↦ ?_⟩
      rcases List.mem_append.mp hother with hother | hother
      · exact hsince other hother
      · rwa [List.mem_singleton.mp hother]

/-! ### Completion -/

/-- Assumes: an operation that is pending in a state that the hooks can reach, and further hooks
that leave it alone. Let `all` be the creations that have been put off until the operation since it
was tracked last, oldest first. Each has changed nothing but what waits for the operation, and no
hook has made anything of them since: the state is that of the schedule without them, with `all`
waiting. The completion does what finishing them one after the other would do in that moment, each
with the subsystem of the time when it was put off, so that its stages are registered if shaders
were rewritten then. To complete the operation once more changes nothing unless it is tracked
anew. -/
theorem completed_as_created (settings : Settings) (device : P.DeviceState) (tools : P.ToolState)
    (storage : P.StorageState) (before between : List Hook) (operation : DeferredHandle)
    (pipelines : List PipelineHandle) :
    let first : Session P := start settings device tools storage
    let last := first.run (before ++ between)
    let done := last.step (.completeDeferred operation pipelines)
    (first.run before).state.deferred.isPending operation = true →
    (∀ hook ∈ between, hook.leavesOperation operation = true) →
    ∃ older since, before = older ++ .trackDeferred operation :: since ∧
      let tracked := (first.run older).step (.trackDeferred operation)
      let all := collect (deferrals operation) tracked (since ++ between)
      (∀ earlier hook later, since ++ between = earlier ++ hook :: later →
        let t := tracked.run earlier
        t.deferrals operation hook ≠ [] →
        (t.step hook).state = t.state.withWaiting operation
          (t.recordings operation ++ (t.deferrals operation hook).map Deferral.recording)) ∧
      last = (tracked.runWithout operation (since ++ between)).withWaiting operation
        (all.map Deferral.recording) ∧
      last.state.completeDeferred operation pipelines =
        (all.length, (all.foldl (createdUnder pipelines) last.state).withDeferred
          (last.state.deferred.erase operation)) ∧
      ∀ later, .trackDeferred operation ∉ later → ∀ again,
        (done.run later).step (.completeDeferred operation again) = done.run later := by
  intro first last done hpending hbetween
  have hfirst : first.state.deferred.get? operation = none := rfl
  obtain ⟨older, since, rfl, hsince⟩ := exists_since_tracked hfirst hpending
  refine ⟨older, since, rfl, ?_⟩
  intro tracked all
  have hleaves (hook : Hook) (hmem : hook ∈ since ++ between) :
      hook.leavesOperation operation = true :=
    (List.mem_append.mp hmem).elim (hsince hook) (hbetween hook)
  have htracked : tracked.state.deferred.get? operation = some [] :=
    Table.get?_insert_self (first.run older).state.deferred operation []
  have hrun : last = tracked.run (since ++ between) := by
    rw [← run_cons, ← run_append, ← List.cons_append, ← List.append_assoc]
  have hlast : last = (tracked.runWithout operation (since ++ between)).withWaiting operation
      (all.map Deferral.recording) := by
    have hschedules := run_eq_withWaiting (isPending_of_get?_eq_some htracked) hleaves
    rwa [recordings_of_get?_eq_some htracked, List.nil_append, ← hrun] at hschedules
  have hwaiting : last.state.deferred.get? operation = some (all.map Deferral.recording) := by
    rw [hlast]
    exact Table.get?_insert_self _ _ _
  refine ⟨?_, hlast, ?_, ?_⟩
  · intro earlier hook later hsplit t hdeferral
    have hearlier (other : Hook) (hmem : other ∈ earlier) :
        other.leavesOperation operation = true := by
      refine hleaves other ?_
      rw [hsplit]
      exact List.mem_append_left _ hmem
    have hrun := run_eq_withWaiting (isPending_of_get?_eq_some htracked) hearlier
    refine state_step_of_deferrals_ne_nil ?_ hdeferral
    show (tracked.run earlier).state.deferred.isPending operation = true
    rw [hrun]
    exact isPending_withWaiting _ operation _
  · rw [completeDeferred_eq, hwaiting, Option.getD_some, List.length_map, List.foldl_map]
    simp only [recordAll_recording]
  · intro later htrack again
    have hdone : done.state.deferred.get? operation = none := by
      have hafter := congrArg (fun after ↦ after.2.deferred.get? operation)
        (last.state.completeDeferred_eq operation pipelines)
      exact hafter.trans (Table.get?_erase_self _ _)
    have hnone := get?_run_eq_none hdone htrack
    simp only [step, completeDeferred_of_get?_eq_none hnone]
    rfl

/-- Two creations wait for an operation, and instrumentation is switched off in between: the stages
of the first are to be registered, and those of the second are not. -/
theorem completed_as_created_off_in_between :
    let first : Session (Simulation.platform false {}) := start {} {} [] []
    let before := [.setUpDevice {}, .trackDeferred ⟨5⟩] ++ deferredRayTracing
    let between := .internalError "vkCmdWaitEvents" "deadlock" :: deferredRayTracing
    let last := first.run (before ++ between)
    (first.run before).state.deferred.isPending ⟨5⟩ = true ∧
      (∀ hook ∈ between, hook.leavesOperation ⟨5⟩ = true) ∧
      ∃ all : List Deferral,
        all.map (fun deferral ↦ deferral.subsystem.isInstrumenting) = [true, false] ∧
        last.state.completeDeferred ⟨5⟩ [⟨9⟩] =
          (2, (all.foldl (createdUnder [⟨9⟩]) last.state).withDeferred
            (last.state.deferred.erase ⟨5⟩)) := by
  intro first before between last
  have hpending : (first.run before).state.deferred.isPending ⟨5⟩ = true := by decide +kernel
  have hleaves : ∀ hook ∈ between, hook.leavesOperation ⟨5⟩ = true := by decide +kernel
  have hregister : (last.recordings ⟨5⟩).map Recording.register = [true, false] := by
    decide +kernel
  obtain ⟨older, since, -, -, hlast, hcompleted, -⟩ := completed_as_created
    (P := Simulation.platform false {}) {} {} [] [] before between ⟨5⟩ [⟨9⟩] hpending hleaves
  have hwaiting := (congrArg (recordings · ⟨5⟩) hlast).trans (recordings_withWaiting _ ⟨5⟩ _)
  have hboth := (congrArg (List.map Recording.register) hwaiting).symm.trans hregister
  rw [List.map_map] at hboth
  have hlength := congrArg List.length hboth
  rw [List.length_map] at hlength
  rw [hlength] at hcompleted
  exact ⟨hpending, hleaves, _, hboth, hcompleted⟩

end Session

end ShaderGuard
