import ShaderGuard.Proofs.QueueIndifference
import ShaderGuard.Proofs.Tables

/-!
# Where drafts are

A draft of a pipeline is with a creation that is under way, or it waits for a deferred operation
(`Session.drafts`). Hooks before creations add drafts (`Session.prepared`). Hooks after creations
take drafts out of the session, or let them wait, and a completed operation hands over what has
waited for it (`Session.handedOver`). No draft is lost or doubled on the way
(`Session.perm_drafts_step`): whatever is counted along drafts adds up. What waits for an operation
was posted with it, and whether its stages will be registered was decided then
(`Session.exists_post_of_mem_recordings`).
-/

set_option autoImplicit false

namespace ShaderGuard

variable {P : Platform}

/-- Take one list out of several. -/
theorem perm_flatten_eraseIdx {α : Type} {lists : List (List α)} {index : Nat} {list : List α}
    (h : lists[index]? = some list) :
    lists.flatten.Perm (list ++ (lists.eraseIdx index).flatten) := by
  obtain ⟨hlt, rfl⟩ := List.getElem?_eq_some_iff.mp h
  exact (List.getElem_cons_eraseIdx_perm hlt).symm.flatten

namespace Instrumentor

/-- The drafts that wait for a deferred operation. -/
def waitingFor (s : Instrumentor P) (operation : DeferredHandle) : List PipelineDraft :=
  ((s.deferred.get? operation).getD []).flatMap Recording.drafts

/-- The drafts that wait for any deferred operation. -/
def waiting (s : Instrumentor P) : List PipelineDraft :=
  s.deferred.entries.flatMap fun entry ↦ entry.2.flatMap Recording.drafts

theorem waiting_congr {s t : Instrumentor P} (h : t.deferred = s.deferred) :
    t.waiting = s.waiting := by
  unfold waiting
  rw [h]

/-- The drafts that wait for an operation are taken out with it. -/
theorem perm_waiting_erase (s : Instrumentor P) (operation : DeferredHandle) :
    s.waiting.Perm (s.waitingFor operation ++
      (s.deferred.erase operation).entries.flatMap fun entry ↦
        entry.2.flatMap Recording.drafts) := by
  unfold waiting waitingFor
  cases h : s.deferred.get? operation with
  | none =>
    rw [Table.erase_of_get?_eq_none h]
    exact List.Perm.refl _
  | some recordings =>
    exact (Table.perm_entries_of_get? h).flatMap_right _

/-- Drafts that wait for an operation from now on are added to those that wait. -/
theorem perm_waiting_append {s : Instrumentor P} {operation : DeferredHandle}
    {recording : Recording} {deferred : DeferredQueue Recording}
    (h : DeferredQueue.append s.deferred operation recording = .ok deferred) :
    (recording.drafts ++ s.waiting).Perm ({ s with deferred } : Instrumentor P).waiting := by
  unfold DeferredQueue.append at h
  cases hwaiting : s.deferred.get? operation with
  | none =>
    rw [hwaiting] at h
    cases h
  | some recordings =>
    rw [hwaiting] at h
    cases h
    have hafter := (Table.perm_entries_insert s.deferred operation
      (recordings ++ [recording])).flatMap_right fun entry ↦ entry.2.flatMap Recording.drafts
    have hbefore := (Table.perm_entries_of_get? hwaiting).flatMap_right
      fun entry ↦ entry.2.flatMap Recording.drafts
    refine List.Perm.trans ?_ hafter.symm
    refine (hbefore.append_left recording.drafts).trans ?_
    simp only [List.flatMap_cons, List.flatMap_append, List.flatMap_nil, List.append_nil]
    rw [← List.append_assoc]
    exact List.perm_append_comm.append_right _

end Instrumentor

namespace Session

open Instrumentor

/-- The drafts of pipelines that are with a creation under way or wait for an operation. -/
def drafts (t : Session P) : List PipelineDraft := t.pipelines.flatten ++ t.state.waiting

/-- The drafts of pipelines that a hook prepares. -/
def prepared (t : Session P) : Hook → List PipelineDraft
  | .preparePipelines infos location => (t.state.preparePipelines infos location).1
  | _ => []

/-- The drafts of pipelines that a hook takes out of the session: they are recorded, released or
forgotten. -/
def handedOver (t : Session P) : Hook → List PipelineDraft
  | .pipelinesCreated creation _ => (t.pipelines[creation]?).getD []
  | .rayTracingPipelinesCreated creation operation result _ =>
    if operation.isNull || result != .deferred || !t.state.deferred.isPending operation then
      (t.pipelines[creation]?).getD []
    else []
  | .trackDeferred operation | .forgetDeferred operation | .completeDeferred operation _ =>
    t.state.waitingFor operation
  | _ => []

/-- A creation whose drafts are finished with is no longer under way. -/
theorem perm_pipelines_finish {t : Session P} {creation : Nat} {drafts : List PipelineDraft}
    (h : t.pipelines[creation]? = some drafts) (rest : List PipelineDraft) :
    (t.pipelines.flatten ++ rest).Perm
      (drafts ++ ((t.pipelines.eraseIdx creation).flatten ++ rest)) := by
  rw [← List.append_assoc]
  exact (perm_flatten_eraseIdx h).append_right rest

/-- Drafts of ray tracing pipelines are recorded, released or left to wait. -/
theorem perm_drafts_rayTracing {t : Session P} {creation : Nat} {drafts : List PipelineDraft}
    (hdrafts : t.pipelines[creation]? = some drafts) (operation : DeferredHandle)
    (result : CreationResult) (pipelines : List PipelineHandle) :
    (t.pipelines.flatten ++ t.state.waiting).Perm
      ((if operation.isNull || result != .deferred || !t.state.deferred.isPending operation then
          drafts else []) ++
        ((t.pipelines.eraseIdx creation).flatten ++
          (t.state.rayTracingPipelinesCreated drafts operation result pipelines).waiting)) := by
  rcases t.state.rayTracingPipelinesCreated_cases drafts operation result pipelines with
    ⟨hnow, hafter⟩ | ⟨hnow, hpending, deferred, happend, hafter⟩ | ⟨hnow, hpending, hafter⟩
  · have hwaiting := waiting_congr
      (t.state.deferred_recordAll t.state.isInstrumenting drafts pipelines)
    simp only [hnow, Bool.true_or, if_true, hafter, pipelinesCreated, hwaiting]
    exact perm_pipelines_finish hdrafts t.state.waiting
  · simp only [hnow, hpending, Bool.not_true, Bool.or_self, Bool.false_eq_true, if_false, hafter]
    refine (perm_pipelines_finish hdrafts t.state.waiting).trans ?_
    rw [← List.append_assoc]
    refine (List.perm_append_comm.append_right _).trans ?_
    rw [List.append_assoc]
    exact (perm_waiting_append happend).append_left _
  · have hwaiting := waiting_congr
      (deferred_releaseAll (t.state.record (untrackedEntry operation)) drafts)
    simp only [hpending, Bool.not_false, Bool.or_true, if_true, hafter, hwaiting]
    exact perm_pipelines_finish hdrafts t.state.waiting

/-- The list of an operation is taken out of those that wait, whatever is put in its place. -/
theorem perm_drafts_taken (t : Session P) (operation : DeferredHandle) {s : Instrumentor P}
    (hafter : s.waiting.Perm ((t.state.deferred.erase operation).entries.flatMap fun entry ↦
      entry.2.flatMap Recording.drafts)) :
    (t.pipelines.flatten ++ t.state.waiting).Perm
      (t.state.waitingFor operation ++ (t.pipelines.flatten ++ s.waiting)) := by
  refine ((t.state.perm_waiting_erase operation).append_left _).trans ?_
  rw [← List.append_assoc, ← List.append_assoc]
  exact List.perm_append_comm.append hafter.symm

/-- What the drafts of a session and those that a hook prepares add up to: those that it takes out
of the session, and those that are there behind it. -/
theorem perm_drafts_step (t : Session P) (hook : Hook) :
    (t.drafts ++ t.prepared hook).Perm (t.handedOver hook ++ (t.step hook).drafts) := by
  unfold drafts
  by_cases hdeferred : hook.leavesDeferred = true
  · have hwaiting := waiting_congr (t.deferred_step hdeferred)
    rw [hwaiting]
    cases hook with
    | preparePipelines infos location =>
      simp only [prepared, handedOver, step, List.flatten_append, List.flatten_singleton,
        List.nil_append, List.append_assoc]
      exact List.perm_append_comm.append_left _
    | pipelinesCreated creation pipelines =>
      simp only [prepared, handedOver, step, finishPipelines, List.append_nil]
      cases hdrafts : t.pipelines[creation]? with
      | none => exact List.Perm.refl _
      | some drafts => exact perm_pipelines_finish hdrafts t.state.waiting
    | shaderObjectsCreated creation objects =>
      simp only [prepared, handedOver, step, finishShaderObjects, List.append_nil, List.nil_append]
      split <;> exact List.Perm.refl _
    | _ => first | (cases hdeferred; done) | simp [prepared, handedOver, step, become]
  · cases hook with
    | rayTracingPipelinesCreated creation operation result pipelines =>
      simp only [prepared, handedOver, step, finishPipelines, List.append_nil]
      cases hdrafts : t.pipelines[creation]? with
      | none => simp
      | some drafts =>
        simpa using perm_drafts_rayTracing hdrafts operation result pipelines
    | trackDeferred operation =>
      have hprepared : t.prepared (.trackDeferred operation) = [] := rfl
      have hinsert := (Table.perm_entries_insert t.state.deferred operation []).flatMap_right
        fun entry : DeferredHandle × List Recording ↦ entry.2.flatMap Recording.drafts
      rw [hprepared, List.append_nil]
      exact perm_drafts_taken t operation hinsert
    | forgetDeferred operation =>
      have hprepared : t.prepared (.forgetDeferred operation) = [] := rfl
      rw [hprepared, List.append_nil]
      exact perm_drafts_taken t operation (List.Perm.refl _)
    | completeDeferred operation pipelines =>
      have hprepared : t.prepared (.completeDeferred operation pipelines) = [] := rfl
      rw [hprepared, List.append_nil]
      refine perm_drafts_taken t operation (List.Perm.of_eq ?_)
      exact waiting_congr (deferred_recordWaiting
        { t.state with deferred := (DeferredQueue.pop t.state.deferred operation).2 } _ pipelines)
    | _ => exact absurd rfl hdeferred

/-- Assumes: that what is in a session and what comes into it in a run has some property. Then what
leaves the session in the run and what is in it at the end has it. -/
theorem forall_flow_run {α : Type} {held : Session P → List α}
    {incoming outgoing : Session P → Hook → List α}
    (hflow : ∀ t hook, (held t ++ incoming t hook).Perm (outgoing t hook ++ held (t.step hook)))
    {Q : α → Prop} {t : Session P} (hnow : ∀ a ∈ held t, Q a) {hooks : List Hook}
    (hincoming : ∀ a ∈ collect incoming t hooks, Q a) :
    (∀ a ∈ collect outgoing t hooks, Q a) ∧ ∀ a ∈ held (t.run hooks), Q a := by
  induction hooks generalizing t with
  | nil => exact ⟨fun a h ↦ absurd h List.not_mem_nil, hnow⟩
  | cons hook rest ih =>
    have hstep : ∀ a ∈ outgoing t hook ++ held (t.step hook), Q a := by
      intro a hmem
      rcases List.mem_append.mp ((hflow t hook).mem_iff.mpr hmem) with h | h
      · exact hnow a h
      · exact hincoming a (List.mem_append_left _ h)
    obtain ⟨houtgoing, hafter⟩ := @ih (t.step hook)
      (fun a h ↦ hstep a (List.mem_append_right _ h))
      (fun a h ↦ hincoming a (List.mem_append_right _ h))
    refine ⟨fun a hmem ↦ ?_, hafter⟩
    rcases List.mem_append.mp hmem with h | h
    · exact hstep a (List.mem_append_left _ h)
    · exact houtgoing a h

/-- Assumes: that the drafts of a session and those prepared in a run have some property. Then those
taken out of the session in the run and those behind it have it. -/
theorem forall_drafts_run {Q : PipelineDraft → Prop} {t : Session P}
    (hnow : ∀ draft ∈ t.drafts, Q draft) {hooks : List Hook}
    (hprepared : ∀ draft ∈ collect prepared t hooks, Q draft) :
    (∀ draft ∈ collect handedOver t hooks, Q draft) ∧ ∀ draft ∈ (t.run hooks).drafts, Q draft :=
  forall_flow_run perm_drafts_step hnow hprepared

/-! ### What waits was posted -/

/-- The recordings that wait for an operation. -/
def recordings (t : Session P) (operation : DeferredHandle) : List Recording :=
  (t.state.deferred.get? operation).getD []

theorem recordings_congr {t u : Session P} (h : u.state.deferred = t.state.deferred)
    (operation : DeferredHandle) : u.recordings operation = t.recordings operation := by
  unfold recordings
  rw [h]

/-- Of the recordings that wait for an operation when ray tracing pipelines have been created, one
may be new. -/
theorem mem_deferred_rayTracing {s : Instrumentor P} {drafts : List PipelineDraft}
    {operation other : DeferredHandle} {result : CreationResult} {pipelines : List PipelineHandle}
    {recording : Recording}
    (h : recording ∈ (((s.rayTracingPipelinesCreated drafts other result pipelines).deferred.get?
      operation).getD [])) :
    recording ∈ (s.deferred.get? operation).getD [] ∨
      other = operation ∧ recording = ⟨drafts, s.isInstrumenting⟩ := by
  rcases s.rayTracingPipelinesCreated_cases drafts other result pipelines with
    ⟨-, hafter⟩ | ⟨-, -, deferred, happend, hafter⟩ | ⟨-, -, hafter⟩
  · rw [hafter, pipelinesCreated, deferred_recordAll] at h
    exact Or.inl h
  · rw [hafter] at h
    by_cases hother : other = operation
    · subst hother
      obtain ⟨waiting, hwaiting, hwaits⟩ := DeferredQueue.get?_of_append happend
      rw [hwaits, Option.getD_some, List.mem_append, List.mem_singleton] at h
      rcases h with hbefore | hnew
      · left
        rwa [hwaiting]
      · exact Or.inr ⟨rfl, hnew⟩
    · left
      rwa [DeferredQueue.get?_of_append_of_ne happend hother] at h
  · rw [hafter, deferred_releaseAll] at h
    exact Or.inl h

/-- A recording that waits for an operation behind a hook has waited before, or the hook has posted
it. Whether its stages will be registered is decided by the state at that time. -/
theorem mem_recordings_step {t : Session P} {hook : Hook} {operation : DeferredHandle}
    {recording : Recording} (h : recording ∈ (t.step hook).recordings operation) :
    recording ∈ t.recordings operation ∨ ∃ creation result pipelines,
      hook = .rayTracingPipelinesCreated creation operation result pipelines ∧
        t.pipelines[creation]? = some recording.drafts ∧
        recording.register = t.state.isInstrumenting := by
  have hkept (hsame : (t.step hook).state.deferred = t.state.deferred) :
      recording ∈ t.recordings operation := by
    rwa [recordings_congr hsame] at h
  have herased (other : DeferredHandle)
      (htaken : (t.step hook).state.deferred = t.state.deferred.erase other) :
      recording ∈ t.recordings operation := by
    unfold recordings at h ⊢
    rw [htaken, Table.get?_erase] at h
    split at h
    · exact absurd h List.not_mem_nil
    · exact h
  by_cases hdeferred : hook.leavesDeferred = true
  · exact Or.inl (hkept (t.deferred_step hdeferred))
  · cases hook with
    | trackDeferred other =>
      left
      unfold recordings at h ⊢
      have hseeded : (t.step (.trackDeferred other)).state.deferred =
          t.state.deferred.insert other [] := rfl
      rw [hseeded, Table.get?_insert] at h
      split at h
      · exact absurd h List.not_mem_nil
      · exact h
    | forgetDeferred other => exact Or.inl (herased other rfl)
    | completeDeferred other pipelines =>
      exact Or.inl (herased other (deferred_recordWaiting _ _ pipelines))
    | rayTracingPipelinesCreated creation other result pipelines =>
      cases hdrafts : t.pipelines[creation]? with
      | none =>
        refine Or.inl (hkept ?_)
        simp only [step, finishPipelines, hdrafts]
      | some drafts =>
        simp only [step, finishPipelines, hdrafts, recordings] at h
        rcases mem_deferred_rayTracing h with hbefore | ⟨rfl, rfl⟩
        · exact Or.inl hbefore
        · exact Or.inr ⟨creation, result, pipelines, rfl, hdrafts, rfl⟩
    | _ => exact absurd rfl hdeferred

/-- A recording that waits for an operation behind a run, and not before it, was posted in the run.
Whether its stages will be registered is decided by the state at that time. -/
theorem exists_post_of_mem_recordings {t : Session P} {hooks : List Hook}
    {operation : DeferredHandle} {recording : Recording}
    (hbefore : recording ∉ t.recordings operation)
    (h : recording ∈ (t.run hooks).recordings operation) :
    ∃ older creation result pipelines newer,
      hooks = older ++ .rayTracingPipelinesCreated creation operation result pipelines :: newer ∧
        (t.run older).pipelines[creation]? = some recording.drafts ∧
        recording.register = (t.run older).state.isInstrumenting := by
  induction hooks generalizing t with
  | nil => exact absurd h hbefore
  | cons hook rest ih =>
    by_cases hnext : recording ∈ (t.step hook).recordings operation
    · rcases mem_recordings_step hnext with hnow | ⟨creation, result, pipelines, rfl, hposted⟩
      · exact absurd hnow hbefore
      · exact ⟨[], creation, result, pipelines, rest, rfl, hposted⟩
    · obtain ⟨older, creation, result, pipelines, newer, rfl, hposted⟩ := ih hnext h
      exact ⟨hook :: older, creation, result, pipelines, newer, rfl, hposted⟩

/-! ### Drafts of shader objects -/

/-- The drafts of shader objects of a session. -/
def objectDrafts (t : Session P) : List ShaderObjectDraft := t.shaderObjects.flatten

/-- The drafts of shader objects that a hook prepares. -/
def preparedObjects (t : Session P) : Hook → List ShaderObjectDraft
  | .prepareShaderObjects infos call => (t.state.prepareShaderObjects infos call).1
  | _ => []

/-- The drafts of shader objects that a hook takes out of the session. -/
def handedOverObjects (t : Session P) : Hook → List ShaderObjectDraft
  | .shaderObjectsCreated creation _ => (t.shaderObjects[creation]?).getD []
  | _ => []

/-- What the drafts of shader objects add up to. -/
theorem perm_objectDrafts_step (t : Session P) (hook : Hook) :
    (t.objectDrafts ++ t.preparedObjects hook).Perm
      (t.handedOverObjects hook ++ (t.step hook).objectDrafts) := by
  unfold objectDrafts
  cases hook with
  | prepareShaderObjects infos call => simp [preparedObjects, handedOverObjects, step]
  | shaderObjectsCreated creation objects =>
    simp only [preparedObjects, handedOverObjects, step, finishShaderObjects, List.append_nil]
    cases hdrafts : t.shaderObjects[creation]? with
    | none => exact List.Perm.refl _
    | some drafts => exact perm_flatten_eraseIdx hdrafts
  | pipelinesCreated creation pipelines =>
    simp only [preparedObjects, handedOverObjects, step, finishPipelines, List.append_nil]
    split <;> exact List.Perm.refl _
  | rayTracingPipelinesCreated creation operation result pipelines =>
    simp only [preparedObjects, handedOverObjects, step, finishPipelines, List.append_nil]
    split <;> exact List.Perm.refl _
  | _ => simp [preparedObjects, handedOverObjects, step, become]

/-- Assumes: that the drafts of shader objects that are prepared in a run have some property, and
none before it. Then those taken out of the session in the run have it. -/
theorem forall_handedOverObjects {Q : ShaderObjectDraft → Prop} {t : Session P}
    (hnow : t.shaderObjects = []) {hooks : List Hook}
    (hprepared : ∀ draft ∈ collect preparedObjects t hooks, Q draft) :
    ∀ draft ∈ collect handedOverObjects t hooks, Q draft := by
  have hnone : ∀ draft ∈ t.objectDrafts, Q draft := by
    unfold objectDrafts
    rw [hnow]
    exact fun draft h ↦ absurd h List.not_mem_nil
  exact (forall_flow_run perm_objectDrafts_step hnone hprepared).1

end Session

end ShaderGuard
