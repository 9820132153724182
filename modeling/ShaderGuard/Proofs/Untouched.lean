import ShaderGuard.Proofs.Work
import ShaderGuard.Simulation.Platform

/-!
# Shaders that stay as they are

A stage that gets no identifier is left alone, and nothing is created for it, whatever the reason
(`StageWork.untouched_of_forall₂`). So are the own stages of a pipeline, and a library without
stages. A library with stages is created anew in any case, though from exactly what the application
created its own from if none of them is instrumented: the handle is then all that the host sees of
it (`LibraryWork.Spared`). Only where the device refuses is the application's library linked.

`untouched_or_relinked` says so of whole calls. `relinked_though_untouched` shows that libraries
with stages cannot be left out.

Whether a pipeline is processed is settled when the call is made. For the pipelines behind one that
switches instrumentation off in the same call, see `ShaderGuard.Proofs.SwitchedOff`.
-/

set_option autoImplicit false

namespace ShaderGuard

open Instrumentor (StageSite StageOutcome)

/-! ### What calls create -/

/-- Whether a call creates an object. -/
def DeviceCall.creates : DeviceCall → Bool
  | .createSetLayout _ (.ok _) => true
  | .createPipelineLayout _ (.ok _) => true
  | .createModule _ (.ok _) => true
  | .createLibrary _ (.ok _) => true
  | _ => false

/-- The calls among some that create an object. -/
def creations (calls : List DeviceCall) : List DeviceCall := calls.filter DeviceCall.creates

theorem creations_append (first second : List DeviceCall) :
    creations (first ++ second) = creations first ++ creations second :=
  List.filter_append first second

/-! ### Stages -/

/-- That no stage of some has an identifier in its record. -/
def Uninstrumented (works : List StageWork) : Prop :=
  ∀ work ∈ works, work.outcome.record.shaderId = none

namespace StageWork

variable {site : StageSite}

/-- Nothing is created for a stage without an identifier. -/
theorem Of.quiet {stage : ShaderStage} {work : StageWork} (h : StageWork.Of site stage work)
    (hnone : work.outcome.record.shaderId = none) : creations work.calls = [] := by
  cases h with
  | left | fruitless | refused | homeless => rfl
  | replaced | inlined => cases hnone

/-- Stages without an identifier are left alone, and nothing is created for them. -/
theorem untouched_of_forall₂ {stages : List ShaderStage} {works : List StageWork}
    (h : List.Forall₂ (StageWork.Of site) stages works) (hnone : Uninstrumented works) :
    (works.map fun work ↦ work.outcome.stage) = stages ∧
      creations (works.flatMap StageWork.calls) = [] := by
  induction h with
  | nil => exact ⟨rfl, rfl⟩
  | @cons stage work stages works hone _ ih =>
    have hstage : work.outcome.stage = stage := hone.stage_eq (hnone work List.mem_cons_self)
    have hquiet : creations work.calls = [] := hone.quiet (hnone work List.mem_cons_self)
    obtain ⟨hstages, hrest⟩ := ih fun other hother ↦ hnone other (List.mem_cons_of_mem _ hother)
    constructor
    · rw [List.map_cons, hstage, hstages]
    · rw [List.flatMap_cons, creations_append, hquiet, hrest, List.append_nil]

end StageWork

/-! ### Libraries -/

namespace LibraryWork

/-- That a library is linked as the application gave it: it has no stages, or the device has been
asked to create just this library anew, and has refused. -/
def Kept (library : GraphicsLibrary) (work : LibraryWork) : Prop :=
  library.info.stages = [] ∨ ∃ fault, .createLibrary library.info (.error fault) ∈ work.calls

/-- What becomes of a library none of whose stages is instrumented. -/
structure Spared (library : GraphicsLibrary) (work : LibraryWork) : Prop where
  kept : Kept library work → work.linked = library ∧ creations work.calls = []
  relinked : ¬ Kept library work → ∃ handle, work.linked = ⟨handle, library.info⟩ ∧
    creations work.calls = [.createLibrary library.info (.ok handle)]

/-- A library none of whose stages is changed is created anew from what it was created from. -/
theorem rebuilt_eq {library : GraphicsLibrary} {stages : List StageWork}
    (h : (stages.map fun work ↦ work.outcome.stage) = library.info.stages) :
    library.rebuilt stages = library.info := by
  obtain ⟨handle, info⟩ := library
  cases info
  unfold LinkedLibrary.rebuilt
  rw [h]

/-- What becomes of a library as far as its stages are not instrumented, or the device refuses. -/
structure Untouched (library : GraphicsLibrary) (work : LibraryWork) : Prop where
  spared : Uninstrumented work.stages → Spared library work
  refused : ∀ info fault, .createLibrary info (.error fault) ∈ work.calls →
    work.linked = library ∧ creations work.calls = creations (work.stages.flatMap StageWork.calls)

theorem Of.spared {site : StageSite} {library : GraphicsLibrary} {work : LibraryWork}
    (h : LibraryWork.Of site library work) (hnone : Uninstrumented work.stages) :
    Spared library work := by
  cases h with
  | empty hempty => exact ⟨fun _ ↦ ⟨rfl, rfl⟩, fun hnot ↦ absurd (Or.inl hempty) hnot⟩
  | relinked hsome hstages handle =>
    obtain ⟨hsame, hquiet⟩ := StageWork.untouched_of_forall₂ hstages hnone
    refine ⟨fun hkept ↦ ?_, fun _ ↦ ⟨handle, ?_, ?_⟩⟩
    · rcases hkept with hempty | ⟨fault, hcall⟩
      · exact absurd hempty hsome
      · cases StageWork.answer_eq_of_mem hstages hcall
    · rw [rebuilt_eq hsame]
    · rw [creations_append, hquiet, rebuilt_eq hsame]
      rfl
  | refused hsome hstages fault =>
    obtain ⟨hsame, hquiet⟩ := StageWork.untouched_of_forall₂ hstages hnone
    refine ⟨fun _ ↦ ⟨rfl, ?_⟩, fun hnot ↦ absurd (Or.inr ⟨fault, ?_⟩) hnot⟩
    · rw [creations_append, hquiet]
      rfl
    · rw [rebuilt_eq hsame]
      exact List.mem_append_right _ List.mem_cons_self

theorem Of.untouched {site : StageSite} {library : GraphicsLibrary} {work : LibraryWork}
    (h : LibraryWork.Of site library work) : Untouched library work := by
  refine ⟨h.spared, fun info fault hcall ↦ ?_⟩
  cases h with
  | empty => exact absurd hcall List.not_mem_nil
  | relinked _ hstages handle => cases StageWork.answer_eq_of_mem hstages hcall
  | refused hsome hstages fault =>
    refine ⟨rfl, ?_⟩
    rw [creations_append]
    exact List.append_nil _

/-- Assumes: no stage of any of some libraries is instrumented, and all libraries are kept. They are
linked as they are, and nothing is created for them. -/
theorem untouched_of_forall₂ {libraries : List GraphicsLibrary} {works : List LibraryWork}
    (h : List.Forall₂ Untouched libraries works)
    (hnone : ∀ work ∈ works, Uninstrumented work.stages)
    (hkept : List.Forall₂ Kept libraries works) :
    works.map LibraryWork.linked = libraries ∧
      creations (works.flatMap LibraryWork.calls) = [] := by
  induction h with
  | nil => exact ⟨rfl, rfl⟩
  | @cons library work libraries works hone _ ih =>
    obtain ⟨hkept, hrest⟩ := List.forall₂_cons.mp hkept
    obtain ⟨hlinked, hquiet⟩ := (hone.spared (hnone work List.mem_cons_self)).kept hkept
    obtain ⟨hothers, hsilent⟩ :=
      ih (fun other hother ↦ hnone other (List.mem_cons_of_mem _ hother)) hrest
    constructor
    · rw [List.map_cons, hlinked, hothers]
    · rw [List.flatMap_cons, creations_append, hquiet, hsilent, List.append_nil]

end LibraryWork

/-! ### Pipelines -/

namespace PipelineWork

/-- What becomes of a pipeline that is processed, and of its libraries, as far as stages are not
instrumented. -/
structure Untouched (info : PipelineInfo) (work : PipelineWork) : Prop where
  records : work.draft.records = work.stages.map fun stage ↦ stage.outcome.record
  linked : work.draft.info.libraries = work.libraries.map LibraryWork.linked
  libraries : List.Forall₂ LibraryWork.Untouched info.libraries work.libraries
  own : Uninstrumented work.own →
    work.draft.info = info.withLibraries (work.libraries.map LibraryWork.linked) ∧
      creations (work.own.flatMap StageWork.calls) = []
  whole : Uninstrumented work.stages →
    List.Forall₂ LibraryWork.Kept info.libraries work.libraries →
      work.draft.info = info ∧ creations work.calls = []

theorem Of.untouched {site : StageSite} {info : PipelineInfo} {work : PipelineWork}
    (h : work.Of site info) : work.Untouched info := by
  have hlibraries : List.Forall₂ LibraryWork.Untouched info.libraries work.libraries :=
    h.libraries.imp fun _ _ hone ↦ hone.untouched
  have hown (hnone : Uninstrumented work.own) :
      work.draft.info = info.withLibraries (work.libraries.map LibraryWork.linked) ∧
        creations (work.own.flatMap StageWork.calls) = [] := by
    obtain ⟨hsame, hquiet⟩ := StageWork.untouched_of_forall₂ h.own hnone
    refine ⟨?_, hquiet⟩
    have hstages := (info.withLibraries (work.libraries.map LibraryWork.linked)).withStages_self
    rw [PipelineInfo.stages_withLibraries] at hstages
    rw [h.info, hsame, hstages]
  refine ⟨h.records, h.libraries_draft, hlibraries, hown, fun hnone hkept ↦ ?_⟩
  obtain ⟨hsame, hquiet⟩ := hown fun stage hstage ↦ hnone stage (List.mem_append_right _ hstage)
  obtain ⟨hlinked, hsilent⟩ := LibraryWork.untouched_of_forall₂ hlibraries
    (fun done hdone stage hstage ↦ hnone stage
      (List.mem_append_left _ (List.mem_flatMap.mpr ⟨done, hdone, hstage⟩))) hkept
  constructor
  · rw [hsame, hlinked, PipelineInfo.withLibraries_self]
  · unfold calls
    rw [creations_append, hsilent, hquiet, List.append_nil]

end PipelineWork

namespace Instrumentor

variable {P : Platform}

/-! ### Whole calls -/

/-- In every state, all that is done in a call can be told pipeline by pipeline, library by library
and stage by stage. A pipeline that is not processed is forwarded as it is, and nothing is done for
it. Of one that is processed, its own stages and each library are forwarded as they are, with
nothing created for them, if no stage of theirs is instrumented; but a library with stages is then
created anew, once, from exactly what it was created from, unless the device refuses. A library that
the device refuses is forwarded as it is, with nothing created for it but modules for its stages. -/
theorem untouched_or_relinked (s : Instrumentor P.audited) (infos : List PipelineInfo)
    (location : String) :
    ∃ works, s.Accounts infos location works ∧
      List.Forall₂
        (fun info work ↦ work.Due (s.Processes info) info ∧
          (s.Processes info → work.Untouched info))
        infos works := by
  obtain ⟨works, haccounts, hdue⟩ := s.exists_accounts_preparePipelines infos location
  refine ⟨works, haccounts, hdue.imp fun info work hone ↦ ⟨hone, fun hprocessed ↦ ?_⟩⟩
  obtain ⟨call, hof⟩ := hone.done hprocessed
  exact hof.untouched

/-- A stage whose code is in a module. -/
def stageOf (module : ModuleHandle) (code : Code) : ShaderStage :=
  ⟨.empty, module, some code, none, "main"⟩

/-- A graphics pipeline or library that declares no layout and uses no slot. -/
def plainInfo (stages : List ShaderStage) (libraries : List GraphicsLibrary) : GraphicsInfo :=
  { flags := .empty, stages, layout := none, activeSlots := .empty, libraries }

/-- A graphics pipeline with one library, whose only stage has some code in a module. -/
def linkedWith (code : Code) : PipelineInfo :=
  .graphics
    { flags := .empty
      stages := []
      layout := none
      activeSlots := .empty
      libraries := [⟨⟨30⟩,
        { flags := .empty
          stages := [⟨.empty, ⟨21⟩, some code, none, "main"⟩]
          layout := none
          activeSlots := .empty
          libraries := [] }⟩] }

/-- The passes find nothing to do in code without instructions, and the stage is not instrumented.
A library is created all the same, and linked in place of the application's. -/
theorem relinked_though_untouched :
    let first : Session (Simulation.platform false {}).audited := .start {} ({}, []) [] []
    let s := (first.step (.setUpDevice {})).state
    let info := linkedWith [0x07230203, 0x10300, 0, 16, 0]
    let prepared := s.preparePipelines [info] "vkCreateGraphicsPipelines"
    info.libraries.map LinkedLibrary.handle = [⟨30⟩] ∧
      prepared.1.map (fun draft ↦ draft.records.map StageRecord.shaderId) = [[none]] ∧
      prepared.1.map (fun draft ↦ draft.info.libraries.map LinkedLibrary.handle) =
        [[⟨0x10003⟩]] ∧
      (creations prepared.2.calls).length = (creations s.calls).length + 1 := by
  decide +kernel

end Instrumentor

end ShaderGuard
