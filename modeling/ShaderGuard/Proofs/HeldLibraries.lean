import ShaderGuard.Proofs.HeldModules
import ShaderGuard.Proofs.Work

/-!
# Libraries that are held

A library with stages is created anew for each pipeline that is linked from it, and what has been
created is to be destroyed with the pipeline. A pipeline remembers two of the libraries that were
created for it, the last one without a fragment stage and the last one with a fragment stage
(`PipelineObjects.HasLast`). Those that were created before them are displaced
(`displacedLibraries`), and nothing refers to them any more. Of modules it remembers all
(`PipelineObjects.MadeBy`).

`Moves` says which libraries are created and which are destroyed between two states. Preparing a
pipeline creates libraries and destroys none (`exists_adds_preparePipeline`). Recording pipelines
creates none; it destroys the libraries of the drafts for which there are no handles, and those of
the others are handed on to the table of pipelines (`Files`).
-/

set_option autoImplicit false

namespace ShaderGuard

open Instrumentor

variable {P : Platform}

/-- Two lists that are cut in two may be put together part by part. -/
theorem perm_append_append {α : Type} (first second third fourth : List α) :
    ((first ++ second) ++ (third ++ fourth)).Perm ((first ++ third) ++ (second ++ fourth)) := by
  rw [List.append_assoc, List.append_assoc]
  exact (List.perm_append_comm_assoc second third fourth).append_left first

/-! ### Modules and libraries in calls -/

/-- The module that a call creates, if any. -/
def DeviceCall.createdModule? : DeviceCall → Option ModuleHandle
  | .createModule _ (.ok module) => some module
  | _ => none

/-- The modules that some calls create. -/
def madeModules (calls : List DeviceCall) : List ModuleHandle :=
  calls.filterMap DeviceCall.createdModule?

theorem madeModules_append (first second : List DeviceCall) :
    madeModules (first ++ second) = madeModules first ++ madeModules second :=
  List.filterMap_append

/-- The library that a call creates, if any. -/
def DeviceCall.createdLibrary? : DeviceCall → Option PipelineHandle
  | .createLibrary _ (.ok library) => some library
  | _ => none

/-- The library that a call creates, if it is to have a fragment stage, or none, as wanted. -/
def DeviceCall.createdLibraryOf? (fragment : Bool) : DeviceCall → Option PipelineHandle
  | .createLibrary info (.ok library) =>
    if anyFragment info.stages = fragment then some library else none
  | _ => none

/-- The library that a call destroys, if any. -/
def DeviceCall.destroyedLibrary? : DeviceCall → Option PipelineHandle
  | .destroyPipeline library => some library
  | _ => none

/-- The libraries that some calls create. -/
def createdLibraries (calls : List DeviceCall) : List PipelineHandle :=
  calls.filterMap DeviceCall.createdLibrary?

/-- The libraries with a fragment stage, or without one, that some calls create. -/
def createdLibrariesOf (fragment : Bool) (calls : List DeviceCall) : List PipelineHandle :=
  calls.filterMap (DeviceCall.createdLibraryOf? fragment)

/-- The libraries that some calls destroy. -/
def destroyedLibraries (calls : List DeviceCall) : List PipelineHandle :=
  calls.filterMap DeviceCall.destroyedLibrary?

/-- Those of the libraries that some calls create, the first call first, behind which there is a
later one of the same kind. -/
def displacedLibraries (calls : List DeviceCall) : List PipelineHandle :=
  (createdLibrariesOf false calls).dropLast ++ (createdLibrariesOf true calls).dropLast

/-- A library has a fragment stage or has none. -/
theorem perm_createdLibraries (calls : List DeviceCall) : (createdLibraries calls).Perm
    (createdLibrariesOf false calls ++ createdLibrariesOf true calls) := by
  induction calls with
  | nil => exact List.Perm.refl _
  | cons call rest ih =>
    cases call with
    | createLibrary info answer =>
      cases answer with
      | error fault => exact ih
      | ok library =>
        unfold createdLibraries createdLibrariesOf at *
        simp only [List.filterMap_cons, DeviceCall.createdLibrary?, DeviceCall.createdLibraryOf?]
        cases anyFragment info.stages with
        | false => exact ih.cons library
        | true => exact (ih.cons library).trans List.perm_middle.symm
    | _ => exact ih

theorem createdLibraries_filter_besidesLayouts (calls : List DeviceCall) :
    createdLibraries (calls.filter DeviceCall.besidesLayouts) = createdLibraries calls := by
  unfold createdLibraries
  rw [List.filterMap_filter]
  refine List.filterMap_congr fun call _ ↦ ?_
  cases call <;> rfl

theorem destroyedLibraries_filter_besidesLayouts (calls : List DeviceCall) :
    destroyedLibraries (calls.filter DeviceCall.besidesLayouts) = destroyedLibraries calls := by
  unfold destroyedLibraries
  rw [List.filterMap_filter]
  refine List.filterMap_congr fun call _ ↦ ?_
  cases call <;> rfl

/-- A release creates nothing, and destroys the libraries that are remembered. -/
theorem createdLibraries_releaseCalls (objects : PipelineObjects) :
    createdLibraries objects.releaseCalls = [] := by
  simp [createdLibraries, PipelineObjects.releaseCalls, DeviceCall.createdLibrary?,
    List.filterMap_map, Function.comp_def]

theorem destroyedLibraries_releaseCalls (objects : PipelineObjects) :
    destroyedLibraries objects.releaseCalls = objects.libraries := by
  simp [destroyedLibraries, PipelineObjects.releaseCalls, DeviceCall.destroyedLibrary?,
    List.filterMap_map, Function.comp_def]

/-- Calls that create modules have nothing to do with libraries. -/
theorem libraries_of_createModule {calls : List DeviceCall}
    (h : ∀ call ∈ calls, ∃ code answer, call = .createModule code answer) :
    (∀ fragment, createdLibrariesOf fragment calls = []) ∧ destroyedLibraries calls = [] := by
  constructor
  · intro fragment
    refine List.filterMap_eq_nil_iff.mpr fun call hcall ↦ ?_
    obtain ⟨code, answer, rfl⟩ := h call hcall
    rfl
  · refine List.filterMap_eq_nil_iff.mpr fun call hcall ↦ ?_
    obtain ⟨code, answer, rfl⟩ := h call hcall
    rfl

/-! ### What a pipeline remembers -/

namespace PipelineObjects

/-- The library with a fragment stage, or the one without; null if there is none. -/
def library (objects : PipelineObjects) (fragment : Bool) : PipelineHandle :=
  if fragment then objects.fragmentLibrary else objects.preRasterLibrary

theorem library_setLibrary (objects : PipelineObjects) (fragment kind : Bool)
    (handle : PipelineHandle) : (objects.setLibrary kind handle).library fragment =
      if kind = fragment then handle else objects.library fragment := by
  cases kind <;> cases fragment <;> rfl

/-- That the last library of each kind is remembered that some calls create, the first call
first. -/
def HasLast (objects : PipelineObjects) (calls : List DeviceCall) : Prop :=
  ∀ fragment, objects.library fragment = (createdLibrariesOf fragment calls).getLast?.getD .null

/-- That the objects of a pipeline which is not recorded yet are what some calls create: all
modules, and the last library of each kind. -/
structure MadeBy (objects : PipelineObjects) (calls : List DeviceCall) : Prop where
  modules : objects.modules = madeModules calls
  last : objects.HasLast calls
  unrecorded : objects.instrumented = false

theorem madeBy_nil : MadeBy {} [] where
  modules := rfl
  last fragment := by cases fragment <;> rfl
  unrecorded := rfl

theorem libraries_eq_append (objects : PipelineObjects) : objects.libraries =
    [objects.library false].filter (fun library ↦ !library.isNull) ++
      [objects.library true].filter fun library ↦ !library.isNull := by
  rw [← List.filter_append]
  rfl

end PipelineObjects

/-- The last of some handles, if it is not null, and those before it. -/
theorem perm_getLast?_dropLast {handles : List PipelineHandle}
    (h : ∀ handle ∈ handles, handle.isNull = false) :
    handles.Perm ([handles.getLast?.getD .null].filter (fun handle ↦ !handle.isNull) ++
      handles.dropLast) := by
  rcases List.eq_nil_or_concat handles with rfl | ⟨older, last, rfl⟩
  · exact List.Perm.refl _
  · have hlast : last.isNull = false := h last (by simp)
    simp only [List.concat_eq_append, List.getLast?_concat, Option.getD_some, List.dropLast_concat,
      List.filter_singleton, hlast, Bool.not_false]
    exact List.perm_append_comm

/-- Assumes: no null handles. The libraries that some calls create are those that are remembered and
those that are displaced. -/
theorem PipelineObjects.HasLast.perm_libraries {objects : PipelineObjects}
    {calls : List DeviceCall} (h : objects.HasLast calls)
    (hnamed : ∀ library ∈ createdLibraries calls, library.isNull = false) :
    (createdLibraries calls).Perm (objects.libraries ++ displacedLibraries calls) := by
  have hkinds := perm_createdLibraries calls
  have hnamedOf : ∀ fragment, ∀ library ∈ createdLibrariesOf fragment calls,
      library.isNull = false := by
    intro fragment library hmem
    refine hnamed library (hkinds.mem_iff.mpr ?_)
    cases fragment with
    | false => exact List.mem_append_left _ hmem
    | true => exact List.mem_append_right _ hmem
  have hpre := perm_getLast?_dropLast (hnamedOf false)
  have hfragment := perm_getLast?_dropLast (hnamedOf true)
  rw [← h false] at hpre
  rw [← h true] at hfragment
  rw [objects.libraries_eq_append]
  exact (hkinds.trans (hpre.append hfragment)).trans (perm_append_append _ _ _ _)

namespace Instrumentor

/-- The libraries that some drafts hold. -/
def draftLibraries (drafts : List PipelineDraft) : List PipelineHandle :=
  drafts.flatMap fun draft ↦ draft.objects.libraries

/-! ### Creations and destructions between two states -/

/-- That some libraries are created and some are destroyed between two states, each list in the
order of the calls. -/
structure Moves (s t : Instrumentor P.audited) (made gone : List PipelineHandle) : Prop where
  created : createdLibraries t.calls = made.reverse ++ createdLibraries s.calls
  destroyed : destroyedLibraries t.calls = gone.reverse ++ destroyedLibraries s.calls

namespace Moves

theorem of_asks {s t : Instrumentor P.audited} {calls : List DeviceCall} (h : s.Asks calls t) :
    Moves s t (createdLibraries calls) (destroyedLibraries calls) := by
  unfold Asks at h
  constructor
  · rw [h, createdLibraries, List.filterMap_append, List.filterMap_reverse]
    rfl
  · rw [h, destroyedLibraries, List.filterMap_append, List.filterMap_reverse]
    rfl

theorem of_onlyLayouts {s t : Instrumentor P.audited} (h : OnlyLayouts s t) : Moves s t [] [] := by
  constructor
  · rw [← createdLibraries_filter_besidesLayouts t.calls, h, createdLibraries_filter_besidesLayouts]
    rfl
  · rw [← destroyedLibraries_filter_besidesLayouts t.calls, h,
      destroyedLibraries_filter_besidesLayouts]
    rfl

theorem refl (s : Instrumentor P.audited) : Moves s s [] [] := ⟨rfl, rfl⟩

theorem trans {s t u : Instrumentor P.audited} {made gone more lost : List PipelineHandle}
    (hst : Moves s t made gone) (htu : Moves t u more lost) :
    Moves s u (made ++ more) (gone ++ lost) := by
  constructor
  · rw [htu.created, hst.created, List.reverse_append, List.append_assoc]
  · rw [htu.destroyed, hst.destroyed, List.reverse_append, List.append_assoc]

/-- A release destroys the libraries that are remembered. -/
theorem release (s : Instrumentor P.audited) (objects : PipelineObjects) :
    Moves s (s.release objects) [] objects.libraries := by
  have hmoves := of_asks (asks_release s objects)
  rwa [createdLibraries_releaseCalls, destroyedLibraries_releaseCalls] at hmoves

theorem releaseAll (s : Instrumentor P.audited) (drafts : List PipelineDraft) :
    Moves s (drafts.foldl (fun s draft ↦ s.release draft.objects) s) []
      (draftLibraries drafts) := by
  induction drafts generalizing s with
  | nil => exact refl s
  | cons draft rest ih => exact (release s draft.objects).trans (ih _)

end Moves

/-! ### Linking -/

/-- What linking libraries does: some calls are made, which create modules and libraries and destroy
no library, and all modules and the last library of each kind are remembered. -/
structure LinkState.Adds (before : LinkState P.audited) (calls : List DeviceCall)
    (after : LinkState P.audited) : Prop where
  asked : before.state.Asks calls after.state
  destroyed : destroyedLibraries calls = []
  modules : after.objects.modules = before.objects.modules ++ madeModules calls
  library : ∀ fragment, after.objects.library fragment =
    (createdLibrariesOf fragment calls).getLast?.getD (before.objects.library fragment)
  instrumented : after.objects.instrumented = before.objects.instrumented

theorem chains_adds : Chains (LinkState.Adds (P := P)) where
  refl link := ⟨chains_asks.refl link.state, rfl, (List.append_nil _).symm, fun _ ↦ rfl, rfl⟩
  trans {s t u first second} hfirst hsecond := by
    refine ⟨chains_asks.trans hfirst.asked hsecond.asked, ?_, ?_, fun fragment ↦ ?_,
      hsecond.instrumented.trans hfirst.instrumented⟩
    · rw [destroyedLibraries, List.filterMap_append]
      exact List.append_eq_nil_iff.mpr ⟨hfirst.destroyed, hsecond.destroyed⟩
    · rw [hsecond.modules, hfirst.modules, madeModules_append, List.append_assoc]
    · rw [hsecond.library fragment, hfirst.library fragment]
      unfold createdLibrariesOf
      rw [List.filterMap_append, List.getLast?_append, Option.getD_or]

/-- Whatever is done for stages, they are of the same kinds afterwards. -/
theorem anyFragment_of_works {site : StageSite} {stages : List ShaderStage}
    {works : List StageWork} (h : List.Forall₂ (StageWork.Of site) stages works) :
    anyFragment (works.map fun work ↦ work.outcome.stage) = anyFragment stages := by
  induction h with
  | nil => rfl
  | @cons stage work stages works hone _ ih =>
    have hsame : work.outcome.stage.stages = stage.stages := by cases hone <;> rfl
    unfold anyFragment at ih ⊢
    rw [List.map_cons, List.any_cons, List.any_cons, hsame, ih]

/-- The modules that are created for stages are those that the calls for them create. -/
theorem createdModules_eq_madeModules {site : StageSite} {stages : List ShaderStage}
    {works : List StageWork} (h : List.Forall₂ (StageWork.Of site) stages works) :
    createdModules (works.map StageWork.outcome) = madeModules (works.flatMap StageWork.calls) := by
  induction h with
  | nil => rfl
  | @cons stage work stages works hone _ ih =>
    have hsame : work.outcome.modules = madeModules work.calls := by cases hone <;> rfl
    unfold createdModules at ih ⊢
    rw [List.map_cons, List.flatMap_cons, List.flatMap_cons, madeModules_append, hsame, ih]

theorem adds_of_works {site : StageSite} {stages : List ShaderStage} {works : List StageWork}
    (h : List.Forall₂ (StageWork.Of site) stages works) {before after : LinkState P.audited}
    (hasked : before.state.Asks (works.flatMap StageWork.calls) after.state)
    (hobjects : after.objects =
      before.objects.addModules (createdModules (works.map StageWork.outcome))) :
    before.Adds (works.flatMap StageWork.calls) after := by
  have hcalls : ∀ call ∈ works.flatMap StageWork.calls,
      ∃ code answer, call = .createModule code answer := by
    intro call hcall
    obtain ⟨work, hwork, hcall⟩ := List.mem_flatMap.mp hcall
    obtain ⟨stage, -, hof⟩ := exists_mem_of_forall₂ h hwork
    exact hof.calls_eq call hcall
  obtain ⟨hcreated, hdestroyed⟩ := libraries_of_createModule hcalls
  refine ⟨hasked, hdestroyed, ?_, fun fragment ↦ ?_, ?_⟩
  · rw [hobjects, ← createdModules_eq_madeModules h]
    rfl
  · rw [hobjects, hcreated fragment]
    cases fragment <;> rfl
  · rw [hobjects]
    rfl

theorem exists_adds_relinkLibrary (site : StageSite) (link : LinkState P.audited)
    (library : GraphicsLibrary) : ∃ calls, link.Adds calls (relinkLibrary site link library).2 := by
  simp only [relinkLibrary]
  by_cases hempty : library.info.stages.isEmpty = true
  · rw [if_pos hempty]
    exact ⟨[], chains_adds.refl link⟩
  · rw [if_neg hempty]
    obtain ⟨works, hworks, houtcomes, -, hasked⟩ := exists_works_instrumentStages
      { site with library := some library.handle } link.state library.info.stages
    generalize instrumentStages { site with library := some library.handle } link.state
      library.info.stages = staged at houtcomes hasked ⊢
    obtain ⟨outcomes, next⟩ := staged
    obtain rfl : works.map StageWork.outcome = outcomes := houtcomes
    let objects := link.objects.addModules (createdModules (works.map StageWork.outcome))
    have hstaged : link.Adds (works.flatMap StageWork.calls) ⟨objects, next⟩ :=
      adds_of_works hworks hasked rfl
    have hkind := anyFragment_of_works hworks
    simp only [List.map_map]
    split
    · next handle hcreated =>
      refine ⟨_, chains_adds.trans hstaged
        ⟨asks_createLibrary hcreated, rfl, ?_, fun fragment ↦ ?_, ?_⟩⟩
      · rw [modules_setLibrary]
        exact (List.append_nil _).symm
      · rw [PipelineObjects.library_setLibrary]
        simp only [createdLibrariesOf, List.filterMap_cons, List.filterMap_nil,
          DeviceCall.createdLibraryOf?, Function.comp_def, hkind]
        unfold LinkedLibrary.hasFragmentStage
        split <;> rfl
      · unfold PipelineObjects.setLibrary
        split <;> rfl
    · next fault hcreated =>
      exact ⟨_, chains_adds.trans hstaged ⟨asks_createLibrary hcreated, rfl,
        (List.append_nil _).symm, fun fragment ↦ rfl, rfl⟩⟩

/-- Preparing a pipeline creates modules and libraries and destroys no library, and all modules and
the last library of each kind are remembered. -/
theorem exists_adds_preparePipeline (slot : UInt32) (location : String) (s : Instrumentor P.audited)
    (indexed : PipelineInfo × Nat) :
    ∃ calls, LinkState.Adds ⟨{}, s⟩ calls
      ⟨(preparePipeline slot location s indexed).1.objects,
        (preparePipeline slot location s indexed).2⟩ := by
  simp only [preparePipeline]
  by_cases heligible : isEligible indexed.1 slot = true
  · simp only [if_pos heligible, instrumentPipeline]
    let site : StageSite := ⟨none, indexed.1.isBindless, elementOf location indexed.2⟩
    let linked := (thread (relinkLibrary site) ⟨{}, s⟩ indexed.1.libraries).2
    have hnext (link : LinkState P.audited) (library : GraphicsLibrary)
        (hbefore : ∃ calls, LinkState.Adds ⟨{}, s⟩ calls link) :
        ∃ calls, LinkState.Adds ⟨{}, s⟩ calls (relinkLibrary site link library).2 := by
      obtain ⟨calls, hbefore⟩ := hbefore
      obtain ⟨more, hone⟩ := exists_adds_relinkLibrary site link library
      exact ⟨calls ++ more, chains_adds.trans hbefore hone⟩
    obtain ⟨calls, hlinked⟩ := thread_invariant (relinkLibrary site) _ hnext ⟨{}, s⟩
      indexed.1.libraries ⟨[], chains_adds.refl _⟩
    obtain ⟨works, hworks, houtcomes, -, hasked⟩ :=
      exists_works_instrumentStages site linked.state indexed.1.stages
    refine ⟨_, chains_adds.trans hlinked (adds_of_works hworks hasked ?_)⟩
    rw [houtcomes]
  · simp only [if_neg heligible]
    exact ⟨[], chains_adds.refl _⟩

/-- The calls to the device between two states, the first one first. -/
def callsBetween (s t : Instrumentor P.audited) : List DeviceCall :=
  (t.calls.take (t.calls.length - s.calls.length)).reverse

theorem callsBetween_of_asks {s t : Instrumentor P.audited} {calls : List DeviceCall}
    (h : s.Asks calls t) : s.callsBetween t = calls := by
  unfold Asks at h
  unfold callsBetween
  rw [h, List.length_append, Nat.add_sub_cancel, List.take_left, List.reverse_reverse]

/-- The calls to the device that are made for each pipeline of a call. -/
def preparations (s : Instrumentor P.audited) (infos : List PipelineInfo) (location : String) :
    List (List DeviceCall) :=
  match s.reservedSlot with
  | none => infos.map fun _ ↦ []
  | some slot =>
    if s.isInstrumenting then
      threadNotes (fun s indexed ↦ [s.callsBetween (preparePipeline slot location s indexed).2])
        (preparePipeline slot location) s infos.zipIdx
    else infos.map fun _ ↦ []

/-- What is done for one pipeline of a call, with the calls that are made for it. -/
theorem exists_sheet_preparePipeline (slot : UInt32) (location : String)
    (s : Instrumentor P.audited) (indexed : PipelineInfo × Nat) :
    ∃ sheet : PipelineDraft × List DeviceCall,
      (sheet.1.objects.MadeBy sheet.2 ∧ destroyedLibraries sheet.2 = []) ∧
      sheet.1 = (preparePipeline slot location s indexed).1 ∧
      [sheet.2] = [s.callsBetween (preparePipeline slot location s indexed).2] ∧
      s.Asks sheet.2 (preparePipeline slot location s indexed).2 := by
  obtain ⟨calls, hadds⟩ := exists_adds_preparePipeline slot location s indexed
  refine ⟨((preparePipeline slot location s indexed).1, calls), ⟨⟨?_, fun fragment ↦ ?_, ?_⟩,
    hadds.destroyed⟩, rfl, ?_, hadds.asked⟩
  · rw [hadds.modules]
    rfl
  · rw [hadds.library fragment]
    cases fragment <;> rfl
  · rw [hadds.instrumented]
  · rw [callsBetween_of_asks hadds.asked]

/-- Calls to the device that create modules and libraries for some drafts and destroy no library;
each draft remembers what was created for it. -/
structure Builds (s : Instrumentor P.audited) (preparations : List (List DeviceCall))
    (result : List PipelineDraft × Instrumentor P.audited) : Prop where
  asked : s.Asks preparations.flatten result.2
  destroyed : destroyedLibraries preparations.flatten = []
  made : List.Forall₂ (fun draft calls ↦ draft.objects.MadeBy calls) result.1 preparations

theorem Builds.last {s : Instrumentor P.audited} {preparations : List (List DeviceCall)}
    {result : List PipelineDraft × Instrumentor P.audited} (h : s.Builds preparations result) :
    List.Forall₂ (fun draft calls ↦ draft.objects.HasLast calls) result.1 preparations :=
  h.made.imp fun _ _ hmade ↦ hmade.last

/-- Pipelines that are left alone have no libraries of their own. -/
theorem builds_nothing (s : Instrumentor P.audited) (infos : List PipelineInfo) :
    s.Builds (infos.map fun _ ↦ []) (infos.map fun info ↦ { info }, s) := by
  have hnone : (infos.map fun _ ↦ ([] : List DeviceCall)).flatten = [] := by simp
  constructor
  · rw [hnone]
    exact chains_asks.refl s
  · rw [hnone]
    rfl
  · rw [List.forall₂_map_left_iff, List.forall₂_map_right_iff, List.forall₂_same]
    exact fun _ _ ↦ PipelineObjects.madeBy_nil

theorem builds_thread (slot : UInt32) (location : String) (s : Instrumentor P.audited)
    (infos : List PipelineInfo) :
    s.Builds
      (threadNotes (fun s indexed ↦ [s.callsBetween (preparePipeline slot location s indexed).2])
        (preparePipeline slot location) s infos.zipIdx)
      (thread (preparePipeline slot location) s infos.zipIdx) := by
  obtain ⟨sheets, hsheets, hdrafts, hcalls, hasked⟩ := exists_sheets_thread chains_asks
    (exists_sheet_preparePipeline slot location) s infos.zipIdx
  have hsheet : ∀ sheet ∈ sheets,
      sheet.1.objects.MadeBy sheet.2 ∧ destroyedLibraries sheet.2 = [] := by
    intro sheet hmem
    obtain ⟨indexed, -, hone⟩ := exists_mem_of_forall₂ hsheets hmem
    exact hone
  rw [← List.map_eq_flatMap] at hcalls
  constructor
  · rw [← hcalls]
    exact hasked
  · rw [← hcalls]
    refine List.filterMap_eq_nil_iff.mpr fun call hcall ↦ ?_
    obtain ⟨calls, hcalls, hcall⟩ := List.mem_flatten.mp hcall
    obtain ⟨sheet, hmem, rfl⟩ := List.mem_map.mp hcalls
    exact List.filterMap_eq_nil_iff.mp (hsheet sheet hmem).2 call hcall
  · rw [← hcalls, ← hdrafts, List.forall₂_map_left_iff, List.forall₂_map_right_iff,
      List.forall₂_same]
    exact fun sheet hmem ↦ (hsheet sheet hmem).1

/-- Before pipelines are created modules and libraries are created and no library is destroyed, and
each draft remembers what was created for it: all modules, and the last library of each kind. -/
theorem builds_preparePipelines (s : Instrumentor P.audited) (infos : List PipelineInfo)
    (location : String) :
    s.Builds (s.preparations infos location) (s.preparePipelines infos location) := by
  unfold preparePipelines preparations
  cases s.reservedSlot with
  | none => exact s.builds_nothing infos
  | some slot =>
    simp only []
    by_cases hactive : s.isInstrumenting = true
    · rw [if_pos hactive, if_pos hactive]
      exact s.builds_thread slot location infos
    · rw [if_neg hactive, if_neg hactive]
      exact s.builds_nothing infos

/-! ### Recording pipelines -/

/-- The libraries that are held for recorded pipelines. -/
def recordedLibraries (s : Instrumentor P) : List PipelineHandle :=
  s.pipelines.entries.flatMap fun entry ↦ entry.2.libraries

theorem recordedLibraries_congr {s t : Instrumentor P} (h : t.pipelines = s.pipelines) :
    t.recordedLibraries = s.recordedLibraries := by
  unfold recordedLibraries
  rw [h]

/-- The libraries that are held for a pipeline. -/
def librariesOf (s : Instrumentor P) (pipeline : PipelineHandle) : List PipelineHandle :=
  ((s.pipelines.get? pipeline).map PipelineObjects.libraries).getD []

/-- The drafts for which there are no handles. -/
def failedDrafts : List PipelineDraft → List PipelineHandle → List PipelineDraft
  | [], _ => []
  | draft :: rest, pipelines =>
    (if (pipelines.headD .null).isNull then [draft] else []) ++ failedDrafts rest pipelines.tail

/-- What recording does with libraries. Of the drafts that are dealt with, those in `failed` have
their libraries destroyed. The libraries of the others are handed on to the table of pipelines, if
the handles in `named` are those of different pipelines that were not recorded before. -/
structure Files (drafts failed : List PipelineDraft) (named : List (PipelineDraft × PipelineHandle))
    (s t : Instrumentor P.audited) : Prop extends Records drafts named s t where
  parts : drafts.Perm (failed ++ named.map Prod.fst)
  moves : Moves s t [] (draftLibraries failed)
  remembered : s.Unrecorded (named.map Prod.snd) →
    ∀ pair ∈ named, t.librariesOf pair.2 = pair.1.objects.libraries
  libraries : s.Unrecorded (named.map Prod.snd) →
    t.recordedLibraries.Perm (draftLibraries (named.map Prod.fst) ++ s.recordedLibraries)

namespace Files

theorem trans {s t u : Instrumentor P.audited} {drafts drafts' failed failed' : List PipelineDraft}
    {named named' : List (PipelineDraft × PipelineHandle)} (hst : Files drafts failed named s t)
    (htu : Files drafts' failed' named' t u) :
    Files (drafts ++ drafts') (failed ++ failed') (named ++ named') s u where
  toRecords := hst.toRecords.trans htu.toRecords
  parts := by
    rw [List.map_append]
    exact (hst.parts.append htu.parts).trans (perm_append_append _ _ _ _)
  moves := by
    have hmoves := hst.moves.trans htu.moves
    rwa [draftLibraries, draftLibraries, ← List.flatMap_append] at hmoves
  remembered hnew pair hmem := by
    rcases List.mem_append.mp hmem with hfirst | hsecond
    · have hremembered := hst.remembered (Records.unrecorded_first hnew) pair hfirst
      unfold librariesOf at hremembered ⊢
      rw [htu.get?_of_first hnew hfirst, hremembered]
    · exact htu.remembered (hst.unrecorded_second hnew) pair hsecond
  libraries hnew := by
    have hfirst := hst.libraries (Records.unrecorded_first hnew)
    have hsecond := htu.libraries (hst.unrecorded_second hnew)
    refine (hsecond.trans (hfirst.append_left _)).trans ?_
    rw [← List.append_assoc, List.map_append, draftLibraries, draftLibraries, draftLibraries,
      List.flatMap_append]
    exact List.perm_append_comm.append_right _

/-- What has nothing to do with pipelines files nothing. -/
theorem none {s t : Instrumentor P.audited} (hsame : OnlyLayouts s t)
    (hpipelines : t.pipelines = s.pipelines) : Files [] [] [] s t where
  toRecords := Records.none (.of_onlyLayouts hsame) hpipelines
  parts := List.Perm.refl _
  moves := Moves.of_onlyLayouts hsame
  remembered _ _ hmem := absurd hmem List.not_mem_nil
  libraries _ := List.Perm.of_eq (recordedLibraries_congr hpipelines)

theorem releaseAll (s : Instrumentor P.audited) (drafts : List PipelineDraft) :
    Files drafts drafts [] s (drafts.foldl (fun s draft ↦ s.release draft.objects) s) where
  toRecords := Records.releaseAll s drafts
  parts := by
    rw [List.map_nil, List.append_nil]
  moves := Moves.releaseAll s drafts
  remembered _ _ hmem := absurd hmem List.not_mem_nil
  libraries _ := List.Perm.of_eq
    (recordedLibraries_congr (SameHoldings.releases.releaseAll s drafts).pipelines)

theorem recordPipeline (registering : Bool) (s : Instrumentor P.audited) (draft : PipelineDraft)
    (pipeline : PipelineHandle) :
    Files [draft] (if pipeline.isNull then [draft] else [])
      (if pipeline.isNull then [] else [(draft, pipeline)]) s
      (recordPipeline registering s draft pipeline) := by
  have hrecords := Records.recordPipeline registering s draft pipeline
  rcases recordPipeline_cases registering s draft pipeline with
    ⟨hnull, hafter⟩ | ⟨hgiven, registry, objects, ⟨-, hlibraries⟩, hafter⟩
  · rw [if_pos hnull, if_pos hnull, hafter]
    exact releaseAll s [draft]
  · rw [if_neg (Bool.eq_false_iff.mp hgiven)] at hrecords ⊢
    rw [if_neg (Bool.eq_false_iff.mp hgiven)]
    have hfree (hnew : s.Unrecorded [pipeline]) : s.pipelines.get? pipeline = .none :=
      get?_eq_none_of_contains (hnew.2 pipeline List.mem_cons_self)
    have hone : draftLibraries [draft] = objects.libraries := by
      rw [draftLibraries, List.flatMap_singleton, hlibraries]
    refine ⟨hrecords, List.Perm.refl _, ?_, fun hnew pair hmem ↦ ?_, fun hnew ↦ ?_⟩
    · rcases hafter with hinserted | ⟨-, hkept⟩
      · rw [hinserted]
        exact ⟨rfl, rfl⟩
      · rw [hkept]
        exact ⟨rfl, rfl⟩
    · obtain rfl := List.mem_singleton.mp hmem
      unfold librariesOf
      rcases hafter with hinserted | ⟨hempty, hkept⟩
      · rw [hinserted, Table.get?_insert_self]
        exact hlibraries
      · rw [hkept, hfree hnew, ← hlibraries, libraries_of_isEmpty hempty]
        rfl
    · show List.Perm _ (draftLibraries [draft] ++ _)
      rw [hone]
      rcases hafter with hinserted | ⟨hempty, hkept⟩
      · rw [hinserted]
        exact (Table.perm_entries_insert_of_get?_eq_none (hfree hnew) objects).flatMap_right
          fun entry ↦ entry.2.libraries
      · rw [hkept, libraries_of_isEmpty hempty]
        exact List.Perm.refl _

theorem recordAll (registering : Bool) (s : Instrumentor P.audited) (drafts : List PipelineDraft)
    (pipelines : List PipelineHandle) :
    Files drafts (failedDrafts drafts pipelines) (namedDrafts drafts pipelines) s
      (recordAll registering s drafts pipelines) := by
  induction drafts generalizing s pipelines with
  | nil => exact none rfl rfl
  | cons draft rest ih => exact (recordPipeline registering s draft _).trans (ih _ _)

theorem completeDeferred (recordings : List Recording) (pipelines : List PipelineHandle)
    (s : Instrumentor P.audited) :
    Files (recordings.flatMap Recording.drafts)
      (recordings.flatMap fun recording ↦ failedDrafts recording.drafts pipelines)
      (recordings.flatMap fun recording ↦ namedDrafts recording.drafts pipelines) s
      (recordings.foldl (fun s recording ↦
        Instrumentor.recordAll recording.register s recording.drafts pipelines) s) := by
  induction recordings generalizing s with
  | nil => exact none rfl rfl
  | cons recording rest ih =>
    exact (recordAll recording.register s recording.drafts pipelines).trans (ih _)

end Files

/-- The libraries of a pipeline that is destroyed are destroyed before it. -/
theorem moves_pipelineDestroyed (s : Instrumentor P.audited) (pipeline : PipelineHandle) :
    Moves s (s.pipelineDestroyed pipeline) [] (s.librariesOf pipeline) ∧
      s.recordedLibraries.Perm
        (s.librariesOf pipeline ++ (s.pipelineDestroyed pipeline).recordedLibraries) := by
  unfold pipelineDestroyed librariesOf
  cases hget : s.pipelines.get? pipeline with
  | none =>
    refine ⟨⟨rfl, rfl⟩, List.Perm.of_eq ?_⟩
    unfold recordedLibraries
    rw [Table.erase_of_get?_eq_none hget]
    rfl
  | some objects =>
    let forgotten : Instrumentor P.audited :=
      { s with
        registry := (s.registry.erasePipeline pipeline).2
        pipelines := s.pipelines.erase pipeline }
    have hforgotten : Moves s forgotten [] [] := ⟨rfl, rfl⟩
    refine ⟨hforgotten.trans (Moves.release forgotten objects), ?_⟩
    rw [recordedLibraries_congr (SameHoldings.releases.release forgotten objects).pipelines]
    exact (Table.perm_entries_of_get? hget).flatMap_right fun entry ↦ entry.2.libraries

end Instrumentor

end ShaderGuard
