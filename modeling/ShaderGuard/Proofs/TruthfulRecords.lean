import ShaderGuard.Proofs.Untouched

/-!
# Records against what is forwarded

A record with an identifier says that its stage runs instrumented code. What a stage runs can be
told from what is forwarded and from the calls to the device: the words that an attempt has made of
its code stand in it, or in a module made for it, and its library, if it has one, is one that the
device has created in this call from what is forwarded (`StagePlace.Runs`).

Records are written stage by stage, and whether a library is created anew is known only behind its
last stage. The records of a library that the device refuses are not taken back: the library is
linked as the application gave it, and they say what its stages would have run. In every other place
a record has an identifier if and only if the stage runs the code of that identifier
(`StagePlace.Truthful`). `records_truthful_unless_refused` says so of whole calls, and
`recorded_though_refused` shows a record that is not true.
-/

set_option autoImplicit false

namespace ShaderGuard

open Bytecode (ShaderId fingerprint)
open Instrumentor (StageSite StageOutcome)

/-! ### Stages in their places -/

/-- What belongs to the stages of a pipeline, each with the library that it is in, those of the
libraries first. -/
def inPlace {κ α : Type} (stages : κ → List α) (libraries : List κ) (own : List α) :
    List (Option κ × α) :=
  (libraries.flatMap fun library ↦ (stages library).map fun stage ↦ (some library, stage)) ++
    own.map fun stage ↦ (none, stage)

/-- The stages of a pipeline, each with the library that it is in. -/
def PipelineInfo.placedStages (info : PipelineInfo) :
    List (Option GraphicsLibrary × ShaderStage) :=
  inPlace (fun library : GraphicsLibrary ↦ library.info.stages) info.libraries info.stages

/-- What is done for the stages of a pipeline, each with what is done for its library. -/
def PipelineWork.placed (work : PipelineWork) : List (Option LibraryWork × StageWork) :=
  inPlace LibraryWork.stages work.libraries work.own

/-- Without the libraries these are all stages. -/
theorem PipelineWork.map_snd_placed (work : PipelineWork) :
    work.placed.map Prod.snd = work.stages := by
  simp [placed, inPlace, stages, List.map_flatMap, Function.comp_def]

/-- A stage in its place, with the library that it is in. -/
structure StagePlace where
  /-- What the application gave. -/
  given : Option GraphicsLibrary × ShaderStage
  work : Option LibraryWork × StageWork
  /-- What the driver gets. -/
  forwarded : Option GraphicsLibrary × ShaderStage

/-- That a stage carries the words that were made of its code under an identifier. -/
def StageWork.Carried (work : StageWork) (stage forwarded : ShaderStage) (id : ShaderId) : Prop :=
  ∃ attempt ∈ work.attempts, ∃ words,
    attempt.id = id ∧ stage.code = some attempt.code ∧ attempt.made = some words ∧
      Carries (fun code module ↦ .createModule code (.ok module) ∈ work.calls) stage words forwarded

namespace StagePlace

/-- What was recorded of the stage. -/
def record (place : StagePlace) : StageRecord := place.work.2.outcome.record

/-- That the library in which the stage is forwarded, if there is one, was created for this pipeline
from what is forwarded. -/
def InNewLibrary (place : StagePlace) : Prop :=
  ∀ library, place.forwarded.1 = some library → ∃ done, place.work.1 = some done ∧
    .createLibrary library.info (.ok library.handle) ∈ done.calls

/-- That the stage is forwarded so that it runs the instrumented code of an identifier. -/
def Runs (place : StagePlace) (id : ShaderId) : Prop :=
  place.work.2.Carried place.given.2 place.forwarded.2 id ∧ place.InNewLibrary

/-- That the device was asked to create the library of the stage anew, and has refused. -/
def Refused (place : StagePlace) : Prop :=
  ∃ done info fault, place.work.1 = some done ∧ .createLibrary info (.error fault) ∈ done.calls

/-- What the record of a stage says of what is forwarded. -/
structure Truthful (place : StagePlace) : Prop where
  runs : ∀ id, place.Runs id ↔ place.record.shaderId = some id ∧ ¬ place.Refused
  untouched : place.record.shaderId = none → place.forwarded.2 = place.given.2
  kept : place.Refused → place.forwarded = place.given

end StagePlace

/-! ### What a stage carries -/

/-- A stage that has a module carries words in a module that was made of them. -/
theorem Carries.exists_module {made : Code → ModuleHandle → Prop} {stage forwarded : ShaderStage}
    {words : Code} (h : Carries made stage words forwarded)
    (hgiven : stage.module.isNull = false) : ∃ module, made words module := by
  cases h with
  | module module _ hmade => exact ⟨module, hmade⟩
  | inline inlined hnull _ =>
    rw [hgiven] at hnull
    cases hnull

/-- A stage that has no module carries words only where code stands in it. -/
theorem Carries.inlined_ne_none {made : Code → ModuleHandle → Prop} {stage forwarded : ShaderStage}
    {words : Code} (h : Carries made stage words forwarded)
    (hgiven : stage.module.isNull = true) : stage.inlined ≠ none := by
  cases h with
  | module module hmodule _ =>
    rw [hgiven] at hmodule
    cases hmodule
  | inline inlined _ hinlined =>
    rw [hinlined]
    exact Option.some_ne_none inlined

/-- A stage carries the words of an identifier if and only if its record has the identifier. -/
theorem StageWork.Of.carried_iff {site : StageSite} {stage : ShaderStage} {work : StageWork}
    (h : StageWork.Of site stage work) (id : ShaderId) :
    work.Carried stage work.outcome.stage id ↔ work.outcome.record.shaderId = some id := by
  constructor
  · rintro ⟨attempt, hattempt, words, rfl, -, hmade, hcarries⟩
    cases h with
    | left => cases hattempt
    | fruitless _ hnone =>
      obtain rfl := List.mem_singleton.mp hattempt
      rw [hnone] at hmade
      cases hmade
    | refused _ _ hgiven fault =>
      obtain ⟨module, hcall⟩ := hcarries.exists_module hgiven
      obtain ⟨-, hanswer⟩ := DeviceCall.createModule.inj (List.mem_singleton.mp hcall)
      cases hanswer
    | replaced | inlined =>
      obtain rfl := List.mem_singleton.mp hattempt
      rfl
    | homeless _ _ hgiven hnone => exact absurd hnone (hcarries.inlined_ne_none hgiven)
  · intro hid
    cases h with
    | left | fruitless | refused | homeless => cases hid
    | @replaced attempt words hon hmade hgiven module =>
      obtain rfl := Option.some.inj hid
      exact ⟨attempt, List.mem_cons_self, words, rfl, hon.code, hmade,
        .module module hgiven List.mem_cons_self⟩
    | @inlined attempt words inlined hon hmade hgiven hinlined =>
      obtain rfl := Option.some.inj hid
      exact ⟨attempt, List.mem_cons_self, words, rfl, hon.code, hmade,
        .inline inlined hgiven hinlined⟩

/-! ### Places -/

/-- That stages are forwarded, and work was done for them, place by place, with records that say
what is true. -/
def TruthfulPlaces (given : List (Option GraphicsLibrary × ShaderStage))
    (work : List (Option LibraryWork × StageWork))
    (forwarded : List (Option GraphicsLibrary × ShaderStage)) : Prop :=
  ∃ places : List StagePlace, places.map StagePlace.given = given ∧
    places.map StagePlace.work = work ∧ places.map StagePlace.forwarded = forwarded ∧
    ∀ place ∈ places, place.Truthful

namespace TruthfulPlaces

variable {given given' forwarded forwarded' : List (Option GraphicsLibrary × ShaderStage)}
  {work work' : List (Option LibraryWork × StageWork)}

theorem nil : TruthfulPlaces [] [] [] :=
  ⟨[], rfl, rfl, rfl, fun _ hplace ↦ absurd hplace List.not_mem_nil⟩

theorem append (h : TruthfulPlaces given work forwarded)
    (h' : TruthfulPlaces given' work' forwarded') :
    TruthfulPlaces (given ++ given') (work ++ work') (forwarded ++ forwarded') := by
  obtain ⟨places, rfl, rfl, rfl, htrue⟩ := h
  obtain ⟨places', rfl, rfl, rfl, htrue'⟩ := h'
  refine ⟨places ++ places', List.map_append, List.map_append, List.map_append, ?_⟩
  intro place hplace
  rcases List.mem_append.mp hplace with hplace | hplace
  · exact htrue place hplace
  · exact htrue' place hplace

/-- Assumes: that each record is true where its stage is put. Then all of them are. -/
theorem ofPairs {before after : Option GraphicsLibrary} {done : Option LibraryWork}
    {pairs : List (ShaderStage × StageWork)} {put : ShaderStage × StageWork → ShaderStage}
    (htrue : ∀ pair ∈ pairs,
      StagePlace.Truthful ⟨(before, pair.1), (done, pair.2), (after, put pair)⟩) :
    TruthfulPlaces ((pairs.map Prod.fst).map fun stage ↦ (before, stage))
      ((pairs.map Prod.snd).map fun work ↦ (done, work))
      ((pairs.map put).map fun stage ↦ (after, stage)) := by
  refine ⟨pairs.map fun pair ↦ ⟨(before, pair.1), (done, pair.2), (after, put pair)⟩,
    by simp, by simp, by simp, fun place hplace ↦ ?_⟩
  obtain ⟨pair, hpair, rfl⟩ := List.mem_map.mp hplace
  exact htrue pair hpair

end TruthfulPlaces

/-- The records of stages that are forwarded in a library that was created for them, or in none, are
true. -/
theorem truthfulPlaces_forwarded {site : StageSite} {stages : List ShaderStage}
    {works : List StageWork} (h : List.Forall₂ (StageWork.Of site) stages works)
    {before after : Option GraphicsLibrary} {done : Option LibraryWork}
    (hnew : ∀ library, after = some library → ∃ work, done = some work ∧
      .createLibrary library.info (.ok library.handle) ∈ work.calls)
    (hdone : ∀ work info fault, done = some work →
      .createLibrary info (.error fault) ∉ work.calls) :
    TruthfulPlaces (stages.map fun stage ↦ (before, stage)) (works.map fun work ↦ (done, work))
      ((works.map fun work ↦ work.outcome.stage).map fun stage ↦ (after, stage)) := by
  obtain ⟨pairs, rfl, rfl, hpairs⟩ := exists_pairs_of_forall₂ h
  have hput : ((pairs.map Prod.snd).map fun work ↦ work.outcome.stage) =
      pairs.map fun pair ↦ pair.2.outcome.stage := List.map_map
  rw [hput]
  refine TruthfulPlaces.ofPairs fun pair hpair ↦ ?_
  have hrefused (place : StagePlace) (hplace : place.work.1 = done) : ¬ place.Refused := by
    rintro ⟨work, info, fault, hwork, hcall⟩
    exact hdone work info fault (hplace ▸ hwork) hcall
  refine ⟨fun id ↦ ?_, (hpairs pair hpair).stage_eq, fun h ↦ absurd h (hrefused _ rfl)⟩
  have hcarried := (hpairs pair hpair).carried_iff id
  constructor
  · intro hruns
    exact ⟨hcarried.mp hruns.1, hrefused _ rfl⟩
  · intro hid
    exact ⟨hcarried.mpr hid.1, hnew⟩

/-- The records of the stages of a library that the device has refused say what the stages would
have run: they run what the application gave. -/
theorem truthfulPlaces_refused {site : StageSite} {library : GraphicsLibrary} {work : LibraryWork}
    (h : List.Forall₂ (StageWork.Of site) library.info.stages work.stages)
    (hrefused : ∃ info fault, .createLibrary info (.error fault) ∈ work.calls)
    (hnone : ∀ info handle, .createLibrary info (.ok handle) ∉ work.calls) :
    TruthfulPlaces (library.info.stages.map fun stage ↦ (some library, stage))
      (work.stages.map fun stage ↦ (some work, stage))
      (library.info.stages.map fun stage ↦ (some library, stage)) := by
  obtain ⟨pairs, hgiven, hworks, -⟩ := exists_pairs_of_forall₂ h
  rw [← hgiven, ← hworks]
  refine TruthfulPlaces.ofPairs fun pair _ ↦ ?_
  obtain ⟨info, fault, hcall⟩ := hrefused
  refine ⟨fun id ↦ ?_, fun _ ↦ rfl, fun _ ↦ rfl⟩
  constructor
  · rintro ⟨-, hnew⟩
    obtain ⟨other, hother, hcreated⟩ := hnew library rfl
    obtain rfl := Option.some.inj hother
    exact absurd hcreated (hnone _ _)
  · rintro ⟨-, hnot⟩
    exact absurd ⟨work, info, fault, rfl, hcall⟩ hnot

theorem LibraryWork.Of.truthfulPlaces {site : StageSite} {library : GraphicsLibrary}
    {work : LibraryWork} (h : LibraryWork.Of site library work) :
    TruthfulPlaces (library.info.stages.map fun stage ↦ (some library, stage))
      (work.stages.map fun stage ↦ (some work, stage))
      (work.linked.info.stages.map fun stage ↦ (some work.linked, stage)) := by
  cases h with
  | empty hnone =>
    rw [hnone]
    exact TruthfulPlaces.nil
  | relinked hsome hstages handle =>
    refine truthfulPlaces_forwarded hstages ?_ ?_
    · rintro linked ⟨⟩
      exact ⟨_, rfl, List.mem_append_right _ List.mem_cons_self⟩
    · rintro done info fault ⟨⟩ hcall
      cases StageWork.answer_eq_of_mem hstages hcall
  | refused hsome hstages fault =>
    refine truthfulPlaces_refused hstages ?_ ?_
    · exact ⟨_, fault, List.mem_append_right _ List.mem_cons_self⟩
    · intro info handle hcall
      cases StageWork.answer_eq_of_mem hstages hcall

/-! ### Pipelines -/

/-- The stages of libraries one after another, and then some others. -/
theorem truthfulPlaces_inPlace {site : StageSite} {libraries : List GraphicsLibrary}
    {works : List LibraryWork} (h : List.Forall₂ (LibraryWork.Of site) libraries works)
    {stages : List ShaderStage} {own : List StageWork}
    (hown : List.Forall₂ (StageWork.Of site) stages own) :
    TruthfulPlaces (inPlace (fun library : GraphicsLibrary ↦ library.info.stages) libraries stages)
      (inPlace LibraryWork.stages works own)
      (inPlace (fun library : GraphicsLibrary ↦ library.info.stages)
        (works.map LibraryWork.linked) (own.map fun work ↦ work.outcome.stage)) := by
  unfold inPlace
  refine TruthfulPlaces.append ?_ ?_
  · induction h with
    | nil => exact TruthfulPlaces.nil
    | cons hone _ ih =>
      simp only [List.flatMap_cons, List.map_cons]
      exact hone.truthfulPlaces.append ih
  · refine truthfulPlaces_forwarded hown ?_ ?_
    · exact fun library hlibrary ↦ nomatch hlibrary
    · exact fun work info fault hwork ↦ nomatch hwork

/-- What the records of a pipeline that is processed say, place by place. -/
structure PipelineWork.Truthful (info : PipelineInfo) (work : PipelineWork)
    (places : List StagePlace) : Prop where
  given : places.map StagePlace.given = info.placedStages
  told : places.map StagePlace.work = work.placed
  records : places.map StagePlace.record = work.draft.records
  forwarded : places.map StagePlace.forwarded = work.draft.info.placedStages
  truthful : ∀ place ∈ places, place.Truthful

theorem PipelineWork.Of.exists_truthful {site : StageSite} {info : PipelineInfo}
    {work : PipelineWork} (h : work.Of site info) : ∃ places, work.Truthful info places := by
  obtain ⟨places, hgiven, hwork, hforwarded, htrue⟩ := truthfulPlaces_inPlace h.libraries h.own
  have hrecords : places.map StagePlace.record =
      (places.map StagePlace.work).map fun placed ↦ placed.2.outcome.record := by
    rw [List.map_map]
    rfl
  refine ⟨places, hgiven, hwork, ?_, ?_, htrue⟩
  · rw [hrecords, hwork, h.records, ← work.map_snd_placed, List.map_map]
    rfl
  · rw [hforwarded, PipelineInfo.placedStages, h.libraries_draft, h.stages_draft]

namespace Instrumentor

variable {P : Platform}

/-- In every state, all that is done in a call can be told pipeline by pipeline, library by library
and stage by stage. A pipeline that is not processed is forwarded as it is, with no records. Of one
that is processed each record has an identifier if and only if the stage in its place is forwarded
so that it runs the instrumented code of that identifier; but where the device has refused to create
the library of the stage anew, the stage and its library are forwarded as the application gave them,
whatever the record has. -/
theorem records_truthful_unless_refused (s : Instrumentor P.audited) (infos : List PipelineInfo)
    (location : String) :
    ∃ works, s.Accounts infos location works ∧
      List.Forall₂
        (fun info work ↦ work.Due (s.Processes info) info ∧
          (s.Processes info → ∃ places, work.Truthful info places))
        infos works := by
  obtain ⟨works, haccounts, hdue⟩ := s.exists_accounts_preparePipelines infos location
  refine ⟨works, haccounts, hdue.imp fun info work hone ↦ ⟨hone, fun hprocessed ↦ ?_⟩⟩
  obtain ⟨call, hof⟩ := hone.done hprocessed
  exact hof.exists_truthful

/-- The device refuses to create the library of a stage with an access to a descriptor array anew.
The stage that is forwarded is the application's, in the application's library, but its record has
an identifier. -/
theorem recorded_though_refused :
    let world : Simulation.World := { failing := [("create_graphics_pipeline_library", -1)] }
    let first : Session (Simulation.platform false {}) := .start {} world [] []
    let code : Code := [0x07230203, 0x10300, 0, 16, 0, Simulation.arrayAccess]
    let drafts := ((first.step (.setUpDevice {})).state.preparePipelines [linkedWith code]
      "vkCreateGraphicsPipelines").1
    drafts.map (fun draft ↦ draft.records.map StageRecord.shaderId) =
        [[some (fingerprint code)]] ∧
      drafts.map (fun draft ↦ draft.info.libraries.map LinkedLibrary.handle) = [[⟨30⟩]] ∧
      drafts.map (fun draft ↦ draft.info.libraries.map fun library ↦
        library.info.stages.map ShaderStage.module) = [[[⟨21⟩]]] := by
  decide +kernel

end Instrumentor

end ShaderGuard
