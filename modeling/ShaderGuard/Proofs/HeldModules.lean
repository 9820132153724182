import Mathlib.Data.List.Nodup
import ShaderGuard.Proofs.Audit
import ShaderGuard.Proofs.Frame
import ShaderGuard.Proofs.Tables

/-!
# Modules that are held

The library creates modules on the device and has to destroy them again. The calls to an audited
device say which modules are outstanding, created and not destroyed since (`outstanding`), and
whether nothing was ever destroyed that was not outstanding (`destroysOutstanding`). `Holds` says
that some modules are exactly the outstanding ones. Each operation has its rule of how the modules
that are held change: whoever creates a module holds it, recording a pipeline hands what is held in
its draft on to the table of pipelines, and a release gives up what is held.
-/

set_option autoImplicit false

namespace ShaderGuard

variable {P : Platform}

/-! ### The account -/

/-- The modules that some calls, the latest first, have created and not destroyed. -/
def outstanding : List DeviceCall → List ModuleHandle
  | [] => []
  | .createModule _ (.ok module) :: older => module :: outstanding older
  | .destroyModule module :: older => (outstanding older).erase module
  | _ :: older => outstanding older

/-- Whether every module that was destroyed was outstanding at that time. -/
def destroysOutstanding : List DeviceCall → Bool
  | [] => true
  | .destroyModule module :: older =>
    (outstanding older).contains module && destroysOutstanding older
  | _ :: older => destroysOutstanding older

/-- Whether the device has given out no module that was outstanding at that time. -/
def createsFresh : List DeviceCall → Bool
  | [] => true
  | .createModule _ (.ok module) :: older =>
    !(outstanding older).contains module && createsFresh older
  | _ :: older => createsFresh older

/-- Assumes: fresh modules. None is outstanding twice. -/
theorem nodup_outstanding {calls : List DeviceCall} (h : createsFresh calls = true) :
    (outstanding calls).Nodup := by
  induction calls with
  | nil => exact List.nodup_nil
  | cons call older ih =>
    cases call with
    | createModule code answer =>
      cases answer with
      | error fault => exact ih h
      | ok module =>
        obtain ⟨hfresh, holder⟩ := Bool.and_eq_true_iff.mp h
        refine List.nodup_cons.mpr ⟨?_, ih holder⟩
        simpa using hfresh
    | destroyModule module => exact (ih h).erase module
    | _ => exact ih h

theorem outstanding_filter_besidesLayouts (calls : List DeviceCall) :
    outstanding (calls.filter DeviceCall.besidesLayouts) = outstanding calls := by
  induction calls with
  | nil => rfl
  | cons call older ih =>
    cases call with
    | createModule code answer =>
      cases answer with
      | error fault => exact ih
      | ok module => exact congrArg (module :: ·) ih
    | destroyModule module => exact congrArg (List.erase · module) ih
    | _ => exact ih

theorem destroysOutstanding_filter_besidesLayouts (calls : List DeviceCall) :
    destroysOutstanding (calls.filter DeviceCall.besidesLayouts) = destroysOutstanding calls := by
  induction calls with
  | nil => rfl
  | cons call older ih =>
    cases call with
    | destroyModule module =>
      have hsame := outstanding_filter_besidesLayouts older
      simp only [List.filter_cons, DeviceCall.besidesLayouts, if_true, destroysOutstanding, ih,
        hsame]
    | _ => exact ih

namespace Instrumentor

/-- The modules that some drafts hold. -/
def draftModules (drafts : List PipelineDraft) : List ModuleHandle :=
  drafts.flatMap fun draft ↦ draft.objects.modules

/-- Two states whose devices have the same account of modules. -/
structure SameAccount (s t : Instrumentor P.audited) : Prop where
  outstanding : outstanding t.calls = outstanding s.calls
  sound : destroysOutstanding t.calls = destroysOutstanding s.calls

namespace SameAccount

theorem refl (s : Instrumentor P.audited) : SameAccount s s := ⟨rfl, rfl⟩

/-- Layouts do not count. -/
theorem of_onlyLayouts {s t : Instrumentor P.audited} (h : OnlyLayouts s t) : SameAccount s t := by
  constructor
  · rw [← outstanding_filter_besidesLayouts t.calls, h, outstanding_filter_besidesLayouts]
  · rw [← destroysOutstanding_filter_besidesLayouts t.calls, h,
      destroysOutstanding_filter_besidesLayouts]

theorem instrumentCode (s : Instrumentor P.audited) (code : Code) (bindless : Bool)
    (location : String) : SameAccount s (s.instrumentCode code bindless location).2 :=
  of_onlyLayouts (.of_device_eq (device_instrumentCode s code bindless location))

end SameAccount

/-- That exactly some modules are outstanding, and nothing else was ever destroyed than what was
outstanding. -/
structure Holds (s : Instrumentor P.audited) (held : List ModuleHandle) : Prop where
  outstanding : (outstanding s.calls).Perm held
  sound : destroysOutstanding s.calls = true

namespace Holds

variable {s : Instrumentor P.audited} {held : List ModuleHandle}

theorem perm (h : s.Holds held) {other : List ModuleHandle} (hperm : held.Perm other) :
    s.Holds other :=
  ⟨h.outstanding.trans hperm, h.sound⟩

/-- Only the account counts. -/
theorem same (h : s.Holds held) {t : Instrumentor P.audited} (hsame : SameAccount s t) :
    t.Holds held := by
  constructor
  · rw [hsame.outstanding]
    exact h.outstanding
  · rw [hsame.sound]
    exact h.sound

/-- Whoever creates a module holds it. -/
theorem createModule_ok (h : s.Holds held) {code : Code} {module : ModuleHandle}
    (hok : (s.createModule code).1 = .ok module) :
    (s.createModule code).2.Holds (module :: held) := by
  have hcalls := calls_createModule s code
  rw [hok] at hcalls
  constructor
  · rw [hcalls]
    exact h.outstanding.cons module
  · rw [hcalls]
    exact h.sound

theorem createModule_error (h : s.Holds held) {code : Code} {fault : Fault}
    (herror : (s.createModule code).1 = .error fault) : (s.createModule code).2.Holds held := by
  have hcalls := calls_createModule s code
  rw [herror] at hcalls
  constructor
  · rw [hcalls]
    exact h.outstanding
  · rw [hcalls]
    exact h.sound

/-- A module that is held may be destroyed. -/
theorem destroyModule {module : ModuleHandle} (h : s.Holds (module :: held)) :
    (s.destroyModule module).Holds held := by
  constructor
  · show ((ShaderGuard.outstanding s.calls).erase module).Perm held
    have herased := h.outstanding.erase module
    rwa [List.erase_cons_head] at herased
  · show ((ShaderGuard.outstanding s.calls).contains module && destroysOutstanding s.calls) = true
    have hmem : module ∈ ShaderGuard.outstanding s.calls :=
      h.outstanding.mem_iff.mpr List.mem_cons_self
    rw [h.sound, Bool.and_true]
    exact List.contains_iff_mem.mpr hmem

theorem destroyModules {modules : List ModuleHandle} (h : s.Holds (modules ++ held)) :
    (modules.foldl Instrumentor.destroyModule s).Holds held := by
  induction modules generalizing s with
  | nil => exact h
  | cons module rest ih => exact ih h.destroyModule

theorem destroyLibraries (h : s.Holds held) (libraries : List PipelineHandle) :
    (libraries.foldl destroyLibrary s).Holds held := by
  induction libraries generalizing s with
  | nil => exact h
  | cons library rest ih => exact ih ⟨h.outstanding, h.sound⟩

/-- A release gives up the modules that are held for a pipeline. -/
theorem release {objects : PipelineObjects} (h : s.Holds (objects.modules ++ held)) :
    (s.release objects).Holds held :=
  h.destroyModules.destroyLibraries objects.libraries

theorem releaseAll {drafts : List PipelineDraft}
    (h : s.Holds (draftModules drafts ++ held)) :
    (drafts.foldl (fun s draft ↦ s.release draft.objects) s).Holds held := by
  induction drafts generalizing s with
  | nil => exact h
  | cons draft rest ih =>
    rw [draftModules, List.flatMap_cons, List.append_assoc] at h
    exact ih h.release

end Holds

/-! ### Preparing pipelines -/

/-- Assumes: a step that holds what its result says, besides what was held. Working through a list
holds what all results say. -/
theorem Holds.thread {α β : Type} {share : β → List ModuleHandle}
    {step : Instrumentor P.audited → α → β × Instrumentor P.audited}
    (hstep : ∀ s a held, s.Holds held → (step s a).2.Holds (share (step s a).1 ++ held))
    {s : Instrumentor P.audited} {held : List ModuleHandle} (h : s.Holds held) (xs : List α) :
    (thread step s xs).2.Holds ((thread step s xs).1.flatMap share ++ held) := by
  induction xs generalizing s held with
  | nil => exact h
  | cons a rest ih =>
    simp only [thread_cons, List.flatMap_cons]
    refine (ih (hstep s a held h)).perm ?_
    rw [← List.append_assoc]
    exact List.perm_append_comm.append_right held

theorem holds_placeCode (site : StageSite) {s : Instrumentor P.audited} {held : List ModuleHandle}
    (h : s.Holds held) (stage : ShaderStage) (index : Nat) (made : InstrumentedCode) :
    (placeCode site s stage index made).2.Holds
      ((placeCode site s stage index made).1.modules ++ held) := by
  simp only [placeCode]
  by_cases hgiven : (!stage.module.isNull) = true
  · rw [if_pos hgiven]
    cases hmodule : (s.createModule made.code).1 with
    | ok module => exact h.createModule_ok hmodule
    | error fault =>
      have hfailed := h.createModule_error hmodule
      exact ⟨hfailed.outstanding, hfailed.sound⟩
  · rw [if_neg hgiven]
    split
    · exact h
    · exact ⟨h.outstanding, h.sound⟩

theorem holds_instrumentStage (site : StageSite) (s : Instrumentor P.audited)
    (indexed : ShaderStage × Nat) (held : List ModuleHandle) (h : s.Holds held) :
    (instrumentStage site s indexed).2.Holds
      ((instrumentStage site s indexed).1.modules ++ held) := by
  simp only [instrumentStage]
  cases indexed.1.code with
  | none => exact h
  | some code =>
    have hcode := h.same (.instrumentCode s code site.bindless site.location)
    by_cases hselected : s.isSelected indexed.1 = true
    · simp only [if_pos hselected]
      split
      · exact hcode
      · exact holds_placeCode site hcode indexed.1 indexed.2 _
    · simp only [if_neg hselected]
      exact h

theorem holds_instrumentStages (site : StageSite) {s : Instrumentor P.audited}
    {held : List ModuleHandle} (h : s.Holds held) (stages : List ShaderStage) :
    (instrumentStages site s stages).2.Holds
      (createdModules (instrumentStages site s stages).1 ++ held) :=
  Holds.thread (holds_instrumentStage site) h stages.zipIdx

/-- Modules that are added to objects are held with them. -/
theorem perm_addModules (objects : PipelineObjects) (modules held : List ModuleHandle) :
    (modules ++ (objects.modules ++ held)).Perm ((objects.addModules modules).modules ++ held) := by
  rw [← List.append_assoc]
  exact List.perm_append_comm.append_right held

theorem modules_setLibrary (objects : PipelineObjects) (fragment : Bool)
    (library : PipelineHandle) :
    (objects.setLibrary fragment library).modules = objects.modules := by
  unfold PipelineObjects.setLibrary
  split <;> rfl

theorem holds_relinkLibrary (site : StageSite) (held : List ModuleHandle)
    (link : LinkState P.audited) (library : GraphicsLibrary)
    (h : link.state.Holds (link.objects.modules ++ held)) :
    (relinkLibrary site link library).2.state.Holds
      ((relinkLibrary site link library).2.objects.modules ++ held) := by
  simp only [relinkLibrary]
  split
  · exact h
  · have hstaged := (holds_instrumentStages { site with library := some library.handle } h
      library.info.stages).perm (perm_addModules _ _ _)
    split
    · simp only [modules_setLibrary]
      exact ⟨hstaged.outstanding, hstaged.sound⟩
    · exact ⟨hstaged.outstanding, hstaged.sound⟩

theorem holds_preparePipeline (slot : UInt32) (location : String) (s : Instrumentor P.audited)
    (indexed : PipelineInfo × Nat) (held : List ModuleHandle) (h : s.Holds held) :
    (preparePipeline slot location s indexed).2.Holds
      ((preparePipeline slot location s indexed).1.objects.modules ++ held) := by
  simp only [preparePipeline]
  split
  · simp only [instrumentPipeline]
    have hlinked := thread_invariant
      (relinkLibrary ⟨none, indexed.1.isBindless, elementOf location indexed.2⟩)
      (fun link : LinkState P.audited ↦ link.state.Holds (link.objects.modules ++ held))
      (holds_relinkLibrary _ held) ⟨{}, s⟩ indexed.1.libraries h
    have hstaged := (holds_instrumentStages
      ⟨none, indexed.1.isBindless, elementOf location indexed.2⟩ hlinked indexed.1.stages).perm
        (perm_addModules _ _ _)
    exact ⟨hstaged.outstanding, hstaged.sound⟩
  · exact h

/-- The modules created before pipelines are created are held in the drafts. -/
theorem holds_preparePipelines {s : Instrumentor P.audited} {held : List ModuleHandle}
    (h : s.Holds held) (infos : List PipelineInfo) (location : String) :
    (s.preparePipelines infos location).2.Holds
      (draftModules (s.preparePipelines infos location).1 ++ held) := by
  rcases s.preparePipelines_cases infos location with ⟨hkept, -⟩ | ⟨slot, hprepared, -⟩
  · have hnone : draftModules (infos.map fun info ↦ { info }) = [] := by
      rw [draftModules, List.flatMap_map, List.flatMap_eq_nil_iff]
      exact fun _ _ ↦ rfl
    rw [hkept, hnone]
    exact h
  · rw [hprepared]
    exact Holds.thread (holds_preparePipeline slot location) h infos.zipIdx

/-! ### Recording pipelines -/

/-- The modules that are held for recorded pipelines. -/
def recordedModules (s : Instrumentor P) : List ModuleHandle :=
  s.pipelines.entries.flatMap fun entry ↦ entry.2.modules

theorem recordedModules_congr {s t : Instrumentor P} (h : t.pipelines = s.pipelines) :
    t.recordedModules = s.recordedModules := by
  unfold recordedModules
  rw [h]

/-- The modules that are held for a pipeline. -/
def modulesOf (s : Instrumentor P) (pipeline : PipelineHandle) : List ModuleHandle :=
  ((s.pipelines.get? pipeline).map PipelineObjects.modules).getD []

theorem modulesOf_subset (s : Instrumentor P) (pipeline : PipelineHandle) :
    s.modulesOf pipeline ⊆ s.recordedModules := by
  intro module hmem
  unfold modulesOf at hmem
  cases hget : s.pipelines.get? pipeline with
  | none =>
    rw [hget] at hmem
    exact absurd hmem List.not_mem_nil
  | some objects =>
    rw [hget] at hmem
    exact List.mem_flatMap.mpr ⟨_, (Table.get?_eq_some_iff _ _ _).mp hget, hmem⟩

/-- The drafts for which there are handles, with these. -/
def namedDrafts : List PipelineDraft → List PipelineHandle → List (PipelineDraft × PipelineHandle)
  | [], _ => []
  | draft :: rest, pipelines =>
    let pipeline := pipelines.headD .null
    (if pipeline.isNull then [] else [(draft, pipeline)]) ++ namedDrafts rest pipelines.tail

theorem handles_namedDrafts_sublist (drafts : List PipelineDraft)
    (pipelines : List PipelineHandle) :
    ((namedDrafts drafts pipelines).map Prod.snd).Sublist
      (pipelines.filter fun pipeline ↦ !pipeline.isNull) := by
  induction drafts generalizing pipelines with
  | nil => exact List.nil_sublist _
  | cons draft rest ih =>
    cases pipelines with
    | nil => simpa [namedDrafts, Handle.isNull, Handle.null] using ih []
    | cons pipeline more =>
      have hcons : namedDrafts (draft :: rest) (pipeline :: more) =
          (if pipeline.isNull then [] else [(draft, pipeline)]) ++ namedDrafts rest more := rfl
      rw [hcons, List.map_append]
      by_cases hnull : pipeline.isNull = true
      · rw [if_pos hnull, List.filter_cons_of_neg (by simp [hnull])]
        exact ih more
      · rw [if_neg hnull, List.filter_cons_of_pos (by simp [hnull])]
        exact (ih more).cons_cons pipeline

/-- That some handles are those of different pipelines, none of which is recorded. -/
def Unrecorded (s : Instrumentor P) (handles : List PipelineHandle) : Prop :=
  handles.Nodup ∧ ∀ pipeline ∈ handles, s.pipelines.contains pipeline = false

instance (s : Instrumentor P) (handles : List PipelineHandle) : Decidable (s.Unrecorded handles) :=
  inferInstanceAs (Decidable (_ ∧ _))

theorem Unrecorded.sublist {s : Instrumentor P} {handles fewer : List PipelineHandle}
    (h : s.Unrecorded handles) (hfewer : fewer.Sublist handles) : s.Unrecorded fewer :=
  ⟨h.1.sublist hfewer, fun pipeline hmem ↦ h.2 pipeline (hfewer.subset hmem)⟩

theorem get?_eq_none_of_contains {table : Table PipelineHandle PipelineObjects}
    {pipeline : PipelineHandle} (h : table.contains pipeline = false) :
    table.get? pipeline = none := by
  simpa [Table.contains] using h

theorem modules_of_isEmpty {objects : PipelineObjects} (h : objects.isEmpty = true) :
    objects.modules = [] := by
  simp only [PipelineObjects.isEmpty, Bool.and_eq_true, List.isEmpty_iff] at h
  exact h.1.1.1

theorem libraries_of_isEmpty {objects : PipelineObjects} (h : objects.isEmpty = true) :
    objects.libraries = [] := by
  simp only [PipelineObjects.isEmpty, Bool.and_eq_true] at h
  simp [PipelineObjects.libraries, h.1.1.2, h.1.2]

/-- Recording a pipeline is a release, or an insertion into the table if there is something to
remember. -/
theorem recordPipeline_cases (registering : Bool) (s : Instrumentor P) (draft : PipelineDraft)
    (pipeline : PipelineHandle) :
    (pipeline.isNull = true ∧
        recordPipeline registering s draft pipeline = s.release draft.objects) ∨
      (pipeline.isNull = false ∧ ∃ registry objects,
        (objects.modules = draft.objects.modules ∧ objects.libraries = draft.objects.libraries) ∧
        (recordPipeline registering s draft pipeline =
            { s with registry, pipelines := s.pipelines.insert pipeline objects } ∨
          objects.isEmpty = true ∧
            recordPipeline registering s draft pipeline = { s with registry })) := by
  unfold recordPipeline
  cases hnull : pipeline.isNull with
  | true => exact Or.inl ⟨rfl, rfl⟩
  | false =>
    let entries :=
      if registering then draft.records.filterMap (StageRecord.entry? pipeline) else []
    let objects : PipelineObjects :=
      { draft.objects with instrumented := draft.objects.instrumented || !entries.isEmpty }
    refine Or.inr ⟨rfl, (s.register entries).registry, objects, ⟨rfl, rfl⟩, ?_⟩
    show (if objects.isEmpty then s.register entries else
      { s.register entries with pipelines := s.pipelines.insert pipeline objects }) = _ ∨ _ ∧
        (if objects.isEmpty then s.register entries else
          { s.register entries with pipelines := s.pipelines.insert pipeline objects }) = _
    by_cases hempty : objects.isEmpty = true
    · rw [if_pos hempty]
      exact Or.inr ⟨hempty, rfl⟩
    · rw [if_neg hempty]
      exact Or.inl rfl

/-- What recording does. `drafts` are dealt with, and those in `named` are recorded under their
handles: if these handles are those of different pipelines that were not recorded before, the
modules of all drafts are handed on, to the table of pipelines or to the device. -/
structure Records (drafts : List PipelineDraft) (named : List (PipelineDraft × PipelineHandle))
    (s t : Instrumentor P.audited) : Prop where
  others : ∀ pipeline ∉ named.map Prod.snd, t.pipelines.get? pipeline = s.pipelines.get? pipeline
  recorded : s.Unrecorded (named.map Prod.snd) →
    ∀ pair ∈ named, t.modulesOf pair.2 = pair.1.objects.modules
  holds : s.Unrecorded (named.map Prod.snd) → ∀ held,
    s.Holds (draftModules drafts ++ (s.recordedModules ++ held)) →
    t.Holds (t.recordedModules ++ held)

namespace Records

theorem unrecorded_second {s t : Instrumentor P.audited}
    {drafts : List PipelineDraft} {first second : List (PipelineDraft × PipelineHandle)}
    (h : Records drafts first s t) (hnew : s.Unrecorded ((first ++ second).map Prod.snd)) :
    t.Unrecorded (second.map Prod.snd) := by
  rw [List.map_append] at hnew
  obtain ⟨-, hsecond, hdisjoint⟩ := List.nodup_append'.mp hnew.1
  refine ⟨hsecond, fun pipeline hmem ↦ ?_⟩
  have hkept := h.others pipeline fun hfirst ↦ hdisjoint hfirst hmem
  have hbefore := hnew.2 pipeline (List.mem_append_right _ hmem)
  unfold Table.contains at hbefore ⊢
  rw [hkept, hbefore]

theorem unrecorded_first {s : Instrumentor P.audited}
    {first second : List (PipelineDraft × PipelineHandle)}
    (hnew : s.Unrecorded ((first ++ second).map Prod.snd)) :
    s.Unrecorded (first.map Prod.snd) := by
  rw [List.map_append] at hnew
  exact ⟨(List.nodup_append'.mp hnew.1).1, fun pipeline hmem ↦
    hnew.2 pipeline (List.mem_append_left _ hmem)⟩

/-- What was recorded first stays as it is when other pipelines are recorded. -/
theorem get?_of_first {s t u : Instrumentor P.audited} {drafts : List PipelineDraft}
    {first second : List (PipelineDraft × PipelineHandle)} (h : Records drafts second t u)
    (hnew : s.Unrecorded ((first ++ second).map Prod.snd)) {pair : PipelineDraft × PipelineHandle}
    (hpair : pair ∈ first) : u.pipelines.get? pair.2 = t.pipelines.get? pair.2 := by
  rw [Unrecorded, List.map_append] at hnew
  exact h.others pair.2 fun hagain ↦ (List.nodup_append'.mp hnew.1).2.2
    (List.mem_map_of_mem hpair) hagain

theorem trans {s t u : Instrumentor P.audited} {drafts drafts' : List PipelineDraft}
    {named named' : List (PipelineDraft × PipelineHandle)} (hst : Records drafts named s t)
    (htu : Records drafts' named' t u) : Records (drafts ++ drafts') (named ++ named') s u where
  others pipeline hmem := by
    rw [List.map_append, List.mem_append, not_or] at hmem
    rw [htu.others pipeline hmem.2, hst.others pipeline hmem.1]
  recorded hnew pair hmem := by
    have hnext := hst.unrecorded_second hnew
    rcases List.mem_append.mp hmem with hfirst | hsecond
    · have hrecorded := hst.recorded (unrecorded_first hnew) pair hfirst
      unfold modulesOf at hrecorded ⊢
      rw [htu.get?_of_first hnew hfirst, hrecorded]
    · exact htu.recorded hnext pair hsecond
  holds hnew held h := by
    -- The modules of the drafts that come later are held aside while the first ones are recorded.
    have hnext := hst.unrecorded_second hnew
    have hfirst : s.Holds (draftModules drafts ++
        (s.recordedModules ++ (draftModules drafts' ++ held))) := by
      refine h.perm ?_
      simp only [draftModules, List.flatMap_append, List.append_assoc]
      refine List.Perm.append_left _ ?_
      rw [← List.append_assoc, ← List.append_assoc]
      exact List.perm_append_comm.append_right held
    have hmiddle : t.Holds (draftModules drafts' ++ (t.recordedModules ++ held)) := by
      refine (hst.holds (unrecorded_first hnew) _ hfirst).perm ?_
      rw [← List.append_assoc, ← List.append_assoc]
      exact List.perm_append_comm.append_right held
    exact htu.holds hnext held hmiddle

/-- What has nothing to do with modules records nothing. -/
theorem none {s t : Instrumentor P.audited} (hsame : SameAccount s t)
    (hpipelines : t.pipelines = s.pipelines) : Records [] [] s t where
  others pipeline _ := by rw [hpipelines]
  recorded _ pair hmem := absurd hmem List.not_mem_nil
  holds _ held h := by
    rw [recordedModules_congr hpipelines]
    exact h.same hsame

/-- What is released is not recorded. -/
theorem releaseAll (s : Instrumentor P.audited) (drafts : List PipelineDraft) :
    Records drafts [] s (drafts.foldl (fun s draft ↦ s.release draft.objects) s) := by
  have hpipelines : (drafts.foldl (fun s draft ↦ s.release draft.objects) s).pipelines =
      s.pipelines := (SameHoldings.releases.releaseAll s drafts).pipelines
  constructor
  · intro pipeline _
    rw [hpipelines]
  · intro _ pair hmem
    exact absurd hmem List.not_mem_nil
  · intro _ held h
    rw [recordedModules_congr hpipelines]
    exact h.releaseAll

theorem recordPipeline (registering : Bool) (s : Instrumentor P.audited) (draft : PipelineDraft)
    (pipeline : PipelineHandle) :
    Records [draft] (if pipeline.isNull then [] else [(draft, pipeline)]) s
      (recordPipeline registering s draft pipeline) := by
  rcases recordPipeline_cases registering s draft pipeline with
    ⟨hnull, hafter⟩ | ⟨hgiven, registry, objects, ⟨hmodules, -⟩, hafter⟩
  · rw [if_pos hnull, hafter]
    exact releaseAll s [draft]
  · rw [if_neg (Bool.eq_false_iff.mp hgiven)]
    have hfree (hnew : s.Unrecorded [pipeline]) : s.pipelines.get? pipeline = .none :=
      get?_eq_none_of_contains (hnew.2 pipeline List.mem_cons_self)
    rcases hafter with hinserted | ⟨hempty, hkept⟩
    · rw [hinserted]
      constructor
      · intro other hother
        have hne : pipeline ≠ other := fun h ↦ hother (List.mem_singleton.mpr h.symm)
        exact Table.get?_insert_of_ne _ _ hne
      · intro _ pair hmem
        obtain rfl := List.mem_singleton.mp hmem
        unfold modulesOf
        rw [Table.get?_insert_self]
        exact hmodules
      · intro hnew held h
        have hentries := (Table.perm_entries_insert_of_get?_eq_none (hfree hnew)
          objects).flatMap_right fun entry ↦ entry.2.modules
        refine Holds.same (s := s) (h.perm ?_) ⟨rfl, rfl⟩
        rw [← List.append_assoc]
        refine List.Perm.append_right held (List.Perm.trans ?_ hentries.symm)
        rw [List.flatMap_cons, hmodules, draftModules, List.flatMap_singleton]
        exact List.Perm.refl _
    · have hnone := modules_of_isEmpty hempty
      rw [hkept]
      constructor
      · intro other _
        rfl
      · intro hnew pair hmem
        obtain rfl := List.mem_singleton.mp hmem
        unfold modulesOf
        rw [hfree hnew, ← hmodules, hnone]
        rfl
      · intro _ held h
        rw [draftModules, List.flatMap_singleton, ← hmodules, hnone] at h
        exact ⟨h.outstanding, h.sound⟩

theorem recordAll (registering : Bool) (s : Instrumentor P.audited) (drafts : List PipelineDraft)
    (pipelines : List PipelineHandle) :
    Records drafts (namedDrafts drafts pipelines) s
      (recordAll registering s drafts pipelines) := by
  induction drafts generalizing s pipelines with
  | nil => exact none (.refl s) rfl
  | cons draft rest ih => exact (recordPipeline registering s draft _).trans (ih _ _)

theorem completeDeferred (recordings : List Recording) (pipelines : List PipelineHandle)
    (s : Instrumentor P.audited) :
    Records (recordings.flatMap Recording.drafts)
      (recordings.flatMap fun recording ↦ namedDrafts recording.drafts pipelines) s
      (recordings.foldl (fun s recording ↦
        Instrumentor.recordAll recording.register s recording.drafts pipelines) s) := by
  induction recordings generalizing s with
  | nil => exact none (.refl s) rfl
  | cons recording rest ih =>
    exact (recordAll recording.register s recording.drafts pipelines).trans (ih _)

end Records

/-- The modules of a pipeline that is destroyed are no longer held. -/
theorem Holds.pipelineDestroyed {s : Instrumentor P.audited} {held : List ModuleHandle}
    (h : s.Holds (s.recordedModules ++ held)) (pipeline : PipelineHandle) :
    (s.pipelineDestroyed pipeline).Holds
      ((s.pipelineDestroyed pipeline).recordedModules ++ held) := by
  unfold Instrumentor.pipelineDestroyed
  cases hget : s.pipelines.get? pipeline with
  | none =>
    unfold recordedModules at h ⊢
    rw [Table.erase_of_get?_eq_none hget]
    exact ⟨h.outstanding, h.sound⟩
  | some objects =>
    simp only []
    rw [recordedModules_congr (SameHoldings.releases.release _ objects).pipelines]
    refine Holds.release (Holds.same (s := s) (h.perm ?_) ⟨rfl, rfl⟩)
    rw [← List.append_assoc]
    refine List.Perm.append_right held ?_
    exact (Table.perm_entries_of_get? hget).flatMap_right fun entry ↦ entry.2.modules

end Instrumentor

end ShaderGuard
