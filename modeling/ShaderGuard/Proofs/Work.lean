import ShaderGuard.Proofs.Audit
import ShaderGuard.Proofs.Forwarding

/-!
# What is done for each stage

What is done for a stage, for a library and for a pipeline is one of a few things each
(`StageWork.Of`, `LibraryWork.Of`, `PipelineWork.Of`). Each thing is told with the attempts that are
made, the calls to the device with their answers, and what comes of it. No attempt and no call of a
hook is left out: put together in order, those of the pipelines are those of the hook
(`Instrumentor.Accounts`). `exists_accounts_preparePipelines` says that every call of the hook can
be told in this way, in whatever state it is made.
-/

set_option autoImplicit false

namespace ShaderGuard

open Instrumentor (StageSite StageOutcome LibraryOutcome)

/-! ### The calls between two states -/

/-- The calls that destroy what was created for a pipeline: its modules, then its libraries. -/
def PipelineObjects.releaseCalls (objects : PipelineObjects) : List DeviceCall :=
  objects.modules.map .destroyModule ++ objects.libraries.map .destroyPipeline

namespace Instrumentor

variable {P : Platform}

/-- That some calls to the device are made between two states, the first one first. -/
def Asks (s : Instrumentor P.audited) (calls : List DeviceCall) (t : Instrumentor P.audited) :
    Prop :=
  t.calls = calls.reverse ++ s.calls

theorem chains_asks : Chains (Asks (P := P)) where
  refl _ := rfl
  trans {s t u first second} hfirst hsecond := by
    unfold Asks at *
    rw [hsecond, hfirst, List.reverse_append, List.append_assoc]

theorem asks_createModule {s : Instrumentor P.audited} {code : Code}
    {answer : Except Fault ModuleHandle} (h : (s.createModule code).1 = answer) :
    s.Asks [.createModule code answer] (s.createModule code).2 := by
  rw [← h]
  exact calls_createModule s code

theorem asks_createLibrary {s : Instrumentor P.audited} {info : GraphicsInfo}
    {answer : Except Fault PipelineHandle} (h : (s.createLibrary info).1 = answer) :
    s.Asks [.createLibrary info answer] (s.createLibrary info).2 := by
  rw [← h]
  exact calls_createLibrary s info

theorem asks_destroyModule (s : Instrumentor P.audited) (module : ModuleHandle) :
    s.Asks [.destroyModule module] (s.destroyModule module) := rfl

theorem asks_destroyLibrary (s : Instrumentor P.audited) (library : PipelineHandle) :
    s.Asks [.destroyPipeline library] (s.destroyLibrary library) := rfl

/-- Assumes: one call for each element. There is one for each element of a list. -/
theorem asks_foldl {α : Type} {f : Instrumentor P.audited → α → Instrumentor P.audited}
    {call : α → DeviceCall} (hone : ∀ s a, Asks s [call a] (f s a)) (s : Instrumentor P.audited)
    (xs : List α) : s.Asks (xs.map call) (xs.foldl f s) := by
  induction xs generalizing s with
  | nil => exact chains_asks.refl s
  | cons a rest ih => exact chains_asks.trans (hone s a) (ih (f s a))

theorem asks_release (s : Instrumentor P.audited) (objects : PipelineObjects) :
    s.Asks objects.releaseCalls (s.release objects) :=
  chains_asks.trans (asks_foldl asks_destroyModule s objects.modules)
    (asks_foldl asks_destroyLibrary _ objects.libraries)

theorem asks_instrumentCode (s : Instrumentor P.audited) (code : Code) (bindless : Bool)
    (location : String) : s.Asks [] (s.instrumentCode code bindless location).2 :=
  calls_instrumentCode s code bindless location

/-- What is asked while libraries are linked may be followed along as well. -/
theorem chains_link : Chains fun (before : LinkState P.audited) calls after ↦
    before.state.Asks calls after.state where
  refl link := chains_asks.refl link.state
  trans := chains_asks.trans

end Instrumentor

/-! ### Stages -/

/-- What is done for a stage. -/
structure StageWork where
  attempts : List Attempt
  calls : List DeviceCall
  outcome : StageOutcome

/-- That an attempt is made on the code of a stage. -/
structure Attempt.On (attempt : Attempt) (site : StageSite) (stage : ShaderStage) : Prop where
  code : stage.code = some attempt.code
  bindless : attempt.bindless = site.bindless

/-- What may be done for a stage. -/
inductive StageWork.Of (site : StageSite) (stage : ShaderStage) : StageWork → Prop where
  /-- There is no code, nobody asks, the code is no shader's, or nothing is rewritten. -/
  | left : Of site stage ⟨[], [], .untouched site stage⟩
  /-- The attempt comes to nothing. -/
  | fruitless {attempt : Attempt} (hon : attempt.On site stage) (hnone : attempt.made = none) :
      Of site stage ⟨[attempt], [], .untouched site stage⟩
  /-- The device does not make a module of the words. -/
  | refused {attempt : Attempt} {words : Code} (hon : attempt.On site stage)
      (hmade : attempt.made = some words) (hgiven : stage.module.isNull = false) (fault : Fault) :
      Of site stage ⟨[attempt], [.createModule words (.error fault)], .untouched site stage⟩
  /-- The device makes a module of the words, and the stage gets it. -/
  | replaced {attempt : Attempt} {words : Code} (hon : attempt.On site stage)
      (hmade : attempt.made = some words) (hgiven : stage.module.isNull = false)
      (module : ModuleHandle) :
      Of site stage ⟨[attempt], [.createModule words (.ok module)],
        { stage := { stage with module }
          record := { (StageOutcome.untouched site stage).record with shaderId := some attempt.id }
          modules := [module] }⟩
  /-- The words take the place of the code in the stage. -/
  | inlined {attempt : Attempt} {words : Code} {inlined : InlineCode}
      (hon : attempt.On site stage) (hmade : attempt.made = some words)
      (hgiven : stage.module.isNull = true) (hinlined : stage.inlined = some inlined) :
      Of site stage ⟨[attempt], [],
        { stage := { stage with inlined := some { inlined with code := words } }
          record :=
            { (StageOutcome.untouched site stage).record with
              shaderId := some attempt.id, inlined := true }
          modules := [] }⟩
  /-- The stage has no place for the words. -/
  | homeless {attempt : Attempt} {words : Code} (hon : attempt.On site stage)
      (hmade : attempt.made = some words) (hgiven : stage.module.isNull = true)
      (hnone : stage.inlined = none) :
      Of site stage ⟨[attempt], [], .untouched site stage⟩

namespace StageWork

variable {site : StageSite}

/-- A stage without an identifier is left alone. -/
theorem Of.stage_eq {stage : ShaderStage} {work : StageWork}
    (h : StageWork.Of site stage work) (hnone : work.outcome.record.shaderId = none) :
    work.outcome.stage = stage := by
  cases h with
  | left | fruitless | refused | homeless => rfl
  | replaced | inlined => cases hnone

/-- For stages the device is asked for modules alone. -/
theorem Of.calls_eq {stage : ShaderStage} {work : StageWork} (h : StageWork.Of site stage work) :
    ∀ call ∈ work.calls, ∃ code answer, call = .createModule code answer := by
  cases h with
  | left | fruitless | inlined | homeless => exact fun call hcall ↦ absurd hcall List.not_mem_nil
  | refused | replaced =>
    intro call hcall
    exact ⟨_, _, List.mem_singleton.mp hcall⟩

/-- For stages no library is asked for, so the answer of a call for a library is that of the call
behind theirs. -/
theorem answer_eq_of_mem {stages : List ShaderStage} {works : List StageWork}
    (h : List.Forall₂ (StageWork.Of site) stages works) {info last : GraphicsInfo}
    {answer answered : Except Fault PipelineHandle}
    (hcall : .createLibrary info answer ∈
      works.flatMap StageWork.calls ++ [.createLibrary last answered]) : answer = answered := by
  rcases List.mem_append.mp hcall with hcall | hcall
  · obtain ⟨work, hwork, hcall⟩ := List.mem_flatMap.mp hcall
    obtain ⟨stage, -, hof⟩ := exists_mem_of_forall₂ h hwork
    obtain ⟨code, other, heq⟩ := hof.calls_eq _ hcall
    cases heq
  · exact (DeviceCall.createLibrary.inj (List.mem_singleton.mp hcall)).2

end StageWork

namespace Instrumentor

variable {P : Platform}

/-- An attempt that succeeds is followed by one of four things. -/
theorem exists_work_placeCode (site : StageSite) (s : Instrumentor P.audited) (stage : ShaderStage)
    (index : Nat) {attempt : Attempt} {words : Code} (hon : attempt.On site stage)
    (hmade : attempt.made = some words) :
    ∃ calls, StageWork.Of site stage
        ⟨[attempt], calls, (placeCode site s stage index ⟨attempt.id, words⟩).1⟩ ∧
      s.Asks calls (placeCode site s stage index ⟨attempt.id, words⟩).2 := by
  simp only [placeCode]
  cases hgiven : stage.module.isNull with
  | false =>
    cases hcreated : (s.createModule words).1 with
    | ok module => exact ⟨_, .replaced hon hmade hgiven module, asks_createModule hcreated⟩
    | error fault => exact ⟨_, .refused hon hmade hgiven fault, asks_createModule hcreated⟩
  | true =>
    cases hinlined : stage.inlined with
    | none => exact ⟨[], .homeless hon hmade hgiven hinlined, rfl⟩
    | some inlined =>
      have hplaced := ShaderStage.withCode_of_inlined hinlined words
      refine ⟨[], ?_, rfl⟩
      simp only [Bool.not_true, Bool.false_eq_true, if_false, Option.isSome_some, if_true, hplaced]
      exact .inlined hon hmade hgiven hinlined

theorem exists_work_instrumentStage (site : StageSite) (s : Instrumentor P.audited)
    (indexed : ShaderStage × Nat) :
    ∃ work : StageWork, StageWork.Of site indexed.1 work ∧
      work.outcome = (instrumentStage site s indexed).1 ∧
      work.attempts = stageAttempts site s indexed ∧
      s.Asks work.calls (instrumentStage site s indexed).2 := by
  simp only [instrumentStage, stageAttempts]
  cases hcode : indexed.1.code with
  | none => exact ⟨_, .left, rfl, rfl, rfl⟩
  | some code =>
    by_cases hselected : s.isSelected indexed.1 = true
    · simp only [if_pos hselected]
      have hasked := asks_instrumentCode s code site.bindless site.location
      cases hmade : (s.instrumentCode code site.bindless site.location).1 with
      | none =>
        rcases codeAttempts_of_none hmade with hattempts | hattempts
        · exact ⟨_, .left, rfl, hattempts.symm, hasked⟩
        · exact ⟨_, .fruitless ⟨hcode, rfl⟩ rfl, rfl, hattempts.symm, hasked⟩
      | some made =>
        have hon : Attempt.On ⟨made.id, code, site.bindless, some made.code⟩ site indexed.1 :=
          ⟨hcode, rfl⟩
        obtain ⟨calls, hwork, hplaced⟩ := exists_work_placeCode site
          (s.instrumentCode code site.bindless site.location).2 indexed.1 indexed.2 hon rfl
        exact ⟨_, hwork, rfl, (codeAttempts_of_made hmade).symm, chains_asks.trans hasked hplaced⟩
    · simp only [if_neg hselected]
      exact ⟨_, .left, rfl, rfl, rfl⟩

theorem exists_works_instrumentStages (site : StageSite) (s : Instrumentor P.audited)
    (stages : List ShaderStage) :
    ∃ works : List StageWork, List.Forall₂ (StageWork.Of site) stages works ∧
      works.map StageWork.outcome = (instrumentStages site s stages).1 ∧
      works.flatMap StageWork.attempts = stagesAttempts site s stages ∧
      s.Asks (works.flatMap StageWork.calls) (instrumentStages site s stages).2 := by
  obtain ⟨works, hworks, hrest⟩ := exists_sheets_thread chains_asks
    (exists_work_instrumentStage site) s stages.zipIdx
  exact ⟨works, forall₂_of_zipIdx hworks, hrest⟩

end Instrumentor

/-! ### Libraries -/

/-- What is done for a library. -/
structure LibraryWork where
  stages : List StageWork
  /-- All calls, those for the stages included. -/
  calls : List DeviceCall
  /-- What is linked in place of the library. -/
  linked : GraphicsLibrary

/-- What a library is to be created anew from. -/
def LinkedLibrary.rebuilt (library : GraphicsLibrary) (stages : List StageWork) : GraphicsInfo :=
  { library.info with stages := stages.map fun work ↦ work.outcome.stage }

/-- What may be done for a library. -/
inductive LibraryWork.Of (site : StageSite) (library : GraphicsLibrary) : LibraryWork → Prop where
  /-- The library has no stages. -/
  | empty (hnone : library.info.stages = []) : Of site library ⟨[], [], library⟩
  /-- The device creates the library anew. -/
  | relinked {stages : List StageWork} (hsome : library.info.stages ≠ [])
      (hstages : List.Forall₂ (StageWork.Of { site with library := some library.handle })
        library.info.stages stages) (handle : PipelineHandle) :
      Of site library ⟨stages,
        stages.flatMap StageWork.calls ++ [.createLibrary (library.rebuilt stages) (.ok handle)],
        ⟨handle, library.rebuilt stages⟩⟩
  /-- The device does not create the library anew. -/
  | refused {stages : List StageWork} (hsome : library.info.stages ≠ [])
      (hstages : List.Forall₂ (StageWork.Of { site with library := some library.handle })
        library.info.stages stages) (fault : Fault) :
      Of site library ⟨stages,
        stages.flatMap StageWork.calls ++ [.createLibrary (library.rebuilt stages) (.error fault)],
        library⟩

namespace LibraryWork

def attempts (work : LibraryWork) : List Attempt := work.stages.flatMap StageWork.attempts

/-- What came of the library. -/
def outcome (work : LibraryWork) : LibraryOutcome :=
  ⟨work.linked, work.stages.map fun stage ↦ stage.outcome.record⟩

end LibraryWork

namespace Instrumentor

variable {P : Platform}

theorem exists_work_relinkLibrary (site : StageSite) (link : LinkState P.audited)
    (library : GraphicsLibrary) :
    ∃ work : LibraryWork, LibraryWork.Of site library work ∧
      work.outcome = (relinkLibrary site link library).1 ∧
      work.attempts = libraryAttempts site link library ∧
      link.state.Asks work.calls (relinkLibrary site link library).2.state := by
  simp only [relinkLibrary, libraryAttempts]
  by_cases hempty : library.info.stages.isEmpty = true
  · simp only [if_pos hempty]
    exact ⟨_, .empty (List.isEmpty_iff.mp hempty), rfl, rfl, rfl⟩
  · simp only [if_neg hempty]
    have hsome : library.info.stages ≠ [] := fun hnil ↦ hempty (List.isEmpty_iff.mpr hnil)
    obtain ⟨stages, hstages, houtcomes, hattempts, hasked⟩ := exists_works_instrumentStages
      { site with library := some library.handle } link.state library.info.stages
    generalize instrumentStages { site with library := some library.handle } link.state
      library.info.stages = staged at houtcomes hasked ⊢
    obtain ⟨outcomes, next⟩ := staged
    obtain rfl : stages.map StageWork.outcome = outcomes := houtcomes
    simp only [List.map_map]
    split
    · next handle hcreated =>
      exact ⟨_, .relinked hsome hstages handle, rfl, hattempts,
        chains_asks.trans hasked (asks_createLibrary hcreated)⟩
    · next fault hcreated =>
      exact ⟨_, .refused hsome hstages fault, rfl, hattempts,
        chains_asks.trans hasked (asks_createLibrary hcreated)⟩

end Instrumentor

/-! ### Pipelines -/

/-- What is done for a pipeline. -/
structure PipelineWork where
  libraries : List LibraryWork := []
  /-- What is done for its own stages. -/
  own : List StageWork := []
  draft : PipelineDraft

namespace PipelineWork

/-- What is done for all stages, those of the libraries first. -/
def stages (work : PipelineWork) : List StageWork :=
  work.libraries.flatMap LibraryWork.stages ++ work.own

def attempts (work : PipelineWork) : List Attempt :=
  work.libraries.flatMap LibraryWork.attempts ++ work.own.flatMap StageWork.attempts

def calls (work : PipelineWork) : List DeviceCall :=
  work.libraries.flatMap LibraryWork.calls ++ work.own.flatMap StageWork.calls

/-- What is done for a pipeline that is processed. -/
structure Of (site : StageSite) (info : PipelineInfo) (work : PipelineWork) : Prop where
  libraries : List.Forall₂ (LibraryWork.Of site) info.libraries work.libraries
  own : List.Forall₂ (StageWork.Of site) info.stages work.own
  info : work.draft.info = (info.withLibraries (work.libraries.map LibraryWork.linked)).withStages
    (work.own.map fun stage ↦ stage.outcome.stage)
  records : work.draft.records = work.stages.map fun stage ↦ stage.outcome.record

theorem Of.libraries_draft {site : StageSite} {info : PipelineInfo} {work : PipelineWork}
    (h : work.Of site info) :
    work.draft.info.libraries = work.libraries.map LibraryWork.linked := by
  rw [h.info, PipelineInfo.libraries_withStages, PipelineInfo.libraries_withLibraries]
  rw [List.length_map, h.libraries.length_eq]

theorem Of.stages_draft {site : StageSite} {info : PipelineInfo} {work : PipelineWork}
    (h : work.Of site info) :
    work.draft.info.stages = work.own.map fun stage ↦ stage.outcome.stage := by
  rw [h.info, PipelineInfo.stages_withStages]
  rw [PipelineInfo.stages_withLibraries, List.length_map, h.own.length_eq]

/-- What is done for a pipeline, by whether it is processed. -/
structure Due (processed : Prop) (info : PipelineInfo) (work : PipelineWork) : Prop where
  done : processed → ∃ location, work.Of ⟨none, info.isBindless, location⟩ info
  spared : ¬ processed → work = { draft := { info } }

end PipelineWork

namespace Instrumentor

variable {P : Platform}

theorem exists_works_relinkLibraries (site : StageSite) (link : LinkState P.audited)
    (libraries : List GraphicsLibrary) :
    ∃ works : List LibraryWork, List.Forall₂ (LibraryWork.Of site) libraries works ∧
      works.map LibraryWork.outcome = (thread (relinkLibrary site) link libraries).1 ∧
      works.flatMap LibraryWork.attempts = librariesAttempts site link libraries ∧
      link.state.Asks (works.flatMap LibraryWork.calls)
        (thread (relinkLibrary site) link libraries).2.state :=
  exists_sheets_thread chains_link (exists_work_relinkLibrary site) link libraries

theorem exists_work_preparePipeline (slot : UInt32) (location : String) (s : Instrumentor P.audited)
    (indexed : PipelineInfo × Nat) :
    ∃ work : PipelineWork, PipelineWork.Due (isEligible indexed.1 slot = true) indexed.1 work ∧
      work.draft = (preparePipeline slot location s indexed).1 ∧
      work.attempts = pipelineAttempts slot location s indexed ∧
      s.Asks work.calls (preparePipeline slot location s indexed).2 := by
  simp only [preparePipeline, pipelineAttempts]
  by_cases heligible : isEligible indexed.1 slot = true
  · simp only [if_pos heligible, instrumentPipeline]
    obtain ⟨libraries, hlibraries, hlinked, hfirst, hasked⟩ := exists_works_relinkLibraries
      ⟨none, indexed.1.isBindless, elementOf location indexed.2⟩ ⟨{}, s⟩ indexed.1.libraries
    obtain ⟨own, hown, hstaged, hsecond, hmore⟩ := exists_works_instrumentStages
      ⟨none, indexed.1.isBindless, elementOf location indexed.2⟩
      (thread (relinkLibrary ⟨none, indexed.1.isBindless, elementOf location indexed.2⟩) ⟨{}, s⟩
        indexed.1.libraries).2.state indexed.1.stages
    refine ⟨⟨libraries, own, _⟩, ⟨fun _ ↦ ⟨elementOf location indexed.2, hlibraries, hown, ?_, ?_⟩,
      fun hnot ↦ absurd heligible hnot⟩, rfl, ?_, chains_asks.trans hasked hmore⟩
    · simp only [← hlinked, ← hstaged, List.map_map]
      rfl
    · simp only [← hlinked, ← hstaged, List.map_map, List.flatMap_map, PipelineWork.stages,
        List.map_append, List.map_flatMap]
      rfl
    · simp only [PipelineWork.attempts, hfirst, hsecond]
  · simp only [if_neg heligible]
    exact ⟨{ draft := { info := indexed.1 } }, ⟨fun h ↦ absurd h heligible, fun _ ↦ rfl⟩, rfl, rfl,
      rfl⟩

/-- That the work told for the pipelines of a call is all that is done in it: its drafts, its
attempts and its calls to the device are those of the hook. -/
structure Accounts (s : Instrumentor P.audited) (infos : List PipelineInfo) (location : String)
    (works : List PipelineWork) : Prop where
  drafts : works.map PipelineWork.draft = (s.preparePipelines infos location).1
  attempts : works.flatMap PipelineWork.attempts = s.pipelinesAttempts infos location
  calls : s.Asks (works.flatMap PipelineWork.calls) (s.preparePipelines infos location).2

/-- All that is done in a call can be told pipeline by pipeline. -/
theorem exists_accounts_preparePipelines (s : Instrumentor P.audited) (infos : List PipelineInfo)
    (location : String) :
    ∃ works, s.Accounts infos location works ∧
      List.Forall₂ (fun info work ↦ PipelineWork.Due (s.Processes info) info work) infos works := by
  rcases s.preparePipelines_cases infos location with
    ⟨hkept, hnone, hunprocessed⟩ | ⟨slot, hprepared, hattempts, hprocesses⟩
  · refine ⟨infos.map fun info ↦ { draft := { info } }, ⟨?_, ?_, ?_⟩, ?_⟩
    · rw [hkept, List.map_map]
      rfl
    · rw [hnone, List.flatMap_map]
      exact List.flatMap_eq_nil_iff.mpr fun _ _ ↦ rfl
    · have hquiet : (infos.map fun info ↦ ({ draft := { info } } : PipelineWork)).flatMap
          PipelineWork.calls = [] := by
        rw [List.flatMap_map]
        exact List.flatMap_eq_nil_iff.mpr fun _ _ ↦ rfl
      rw [hkept, hquiet]
      exact chains_asks.refl s
    · rw [List.forall₂_map_right_iff, List.forall₂_same]
      exact fun info _ ↦ ⟨fun h ↦ absurd h (hunprocessed info), fun _ ↦ rfl⟩
  · obtain ⟨works, hworks, hdrafts, hnotes, hasked⟩ := exists_sheets_thread chains_asks
      (exists_work_preparePipeline slot location) s infos.zipIdx
    simp only [hprocesses]
    refine ⟨works, ⟨?_, ?_, ?_⟩, forall₂_of_zipIdx hworks⟩
    · rw [hprepared, hdrafts]
    · rw [hattempts, hnotes]
    · rw [hprepared]
      exact hasked

end Instrumentor

end ShaderGuard
