import ShaderGuard.Proofs.CountedAttempts

/-!
# Shaders that the application asks for

Where it is left to the application which shaders are instrumented, it asks for a stage in the
stage itself if its code stands there, for a module when it creates it, and for a shader object when
it creates that. What was asked for a module is forgotten when the module is destroyed, so that
whatever gets its handle later has to be asked for anew (`WantsModule`). The set that the hooks keep
is at all times the set of modules that are wanted by what has happened so far
(`Session.contains_selectedModules_run`).

A stage that is not wanted is left alone in every state in the midst of a call
(`Instrumentor.LeavesUnwanted`). Put together, each stage of a call has its share of what the call
does, and that of an unwanted one is nothing: no attempt, no identifier, and the stage as it was
(`StageShare.Of`). `Session.only_wanted_attempted` says so of every run.
-/

set_option autoImplicit false

namespace ShaderGuard

/-! ### What is asked for -/

/-- That a module is wanted by what has happened: it was asked for when a module got this handle,
and no module with the handle has been destroyed since. -/
def WantsModule (hooks : List Hook) (module : ModuleHandle) : Prop :=
  LastsIn (fun _ hook ↦ hook = .moduleCreated module true)
    (fun hook ↦ hook ≠ .moduleDestroyed module) hooks

/-- That a stage is wanted: by itself if its code stands in it and it has no module, and otherwise
by its module. -/
def WantsStage (hooks : List Hook) (stage : ShaderStage) : Prop :=
  match stage.inlined with
  | some inlined =>
    if stage.module.isNull then inlined.selected = true else WantsModule hooks stage.module
  | none => WantsModule hooks stage.module

/-- One more hook asks for a module, forgets it, or leaves it as it was. -/
theorem wantsModule_concat_iff (hooks : List Hook) (hook : Hook) (module : ModuleHandle) :
    WantsModule (hooks ++ [hook]) module ↔
      hook = .moduleCreated module true ∨
        WantsModule hooks module ∧ hook ≠ .moduleDestroyed module :=
  lastsIn_concat_iff _ _ hooks hook

/-- Assumes: a module that is destroyed, and no later wish for one with its handle. None with the
handle is wanted. -/
theorem not_wantsModule_of_destroyed {older newer : List Hook} {module : ModuleHandle}
    (hnone : .moduleCreated module true ∉ newer) :
    ¬ WantsModule (older ++ .moduleDestroyed module :: newer) module := by
  rw [List.append_cons]
  induction newer using List.reverseRecOn with
  | nil =>
    rw [List.append_nil, wantsModule_concat_iff]
    rintro (hwish | ⟨-, hspared⟩)
    · cases hwish
    · exact hspared rfl
  | append_singleton newer hook ih =>
    rw [← List.append_assoc, wantsModule_concat_iff]
    rintro (rfl | ⟨hwanted, -⟩)
    · exact hnone (List.mem_append_right _ List.mem_cons_self)
    · exact ih (fun hmem ↦ hnone (List.mem_append_left _ hmem)) hwanted

variable {P : Platform}

/-! ### The set of modules -/

namespace KeySet

variable {κ : Type} [TableKey κ]

theorem contains_add_iff (set : KeySet κ) (key other : κ) :
    (set.add key).contains other = true ↔ key = other ∨ set.contains other = true := by
  unfold add Table.contains
  by_cases hsame : key = other
  · subst hsame
    rw [Table.get?_insert_self]
    exact ⟨fun _ ↦ Or.inl rfl, fun _ ↦ rfl⟩
  · rw [Table.get?_insert_of_ne _ _ hsame, or_iff_right hsame]

theorem contains_erase_iff (set : KeySet κ) (key other : κ) :
    (set.erase key).contains other = true ↔ set.contains other = true ∧ key ≠ other := by
  unfold Table.contains
  by_cases hsame : key = other
  · subst hsame
    rw [Table.get?_erase_self]
    exact ⟨fun h ↦ (nomatch h), fun h ↦ absurd rfl h.2⟩
  · rw [Table.get?_erase_of_ne _ hsame, and_iff_left hsame]

end KeySet

namespace Session

open Instrumentor

/-- Hooks that neither follow the creation of a module nor precede its destruction leave the set of
modules alone. -/
theorem selectedModules_step (t : Session P) {hook : Hook}
    (hcreated : ∀ module selected, hook ≠ .moduleCreated module selected)
    (hdestroyed : ∀ module, hook ≠ .moduleDestroyed module) :
    (t.step hook).state.selectedModules = t.state.selectedModules := by
  by_cases hreports : hook.reportsOnly = true
  · have hnotes : Notes (P := P) fun s t ↦ t.selectedModules = s.selectedModules :=
      ⟨fun _ ↦ rfl, fun hst htu ↦ htu.trans hst, fun _ _ _ ↦ rfl, fun _ _ _ ↦ rfl, fun _ _ _ ↦ rfl⟩
    exact notes_step hnotes t hreports hcreated
  by_cases hrecords : hook.recordsOnly = true
  · obtain ⟨log, device, registry, pipelines, deferred, hafter⟩ := onlyRecords_step t hrecords
    rw [hafter]
  cases hook with
  | setUpDevice capabilities =>
    obtain ⟨log, device, subsystem, resources, hafter, -⟩ :=
      OnlyDevice.setUpDevice t.state capabilities
    simp only [step, become, hafter]
  | tearDownDevice =>
    obtain ⟨log, device, hafter⟩ := exists_tearDownDevice_eq t.state
    simp only [step, become, hafter]
  | moduleDestroyed module => exact absurd rfl (hdestroyed module)
  | preparePipelines infos location =>
    exact (SameChoice.rewrites.quietly.preparePipelines t.state infos location).selectedModules
  | prepareShaderObjects infos call =>
    exact (SameChoice.rewrites.quietly.prepareShaderObjects t.state infos call).selectedModules
  | shaderObjectsCreated creation objects =>
    simp only [step, finishShaderObjects]
    split
    · rfl
    · next drafts _ =>
      obtain ⟨registry, shaderObjects, hafter⟩ :=
        exists_shaderObjectsCreated_eq t.state drafts objects
      rw [hafter]
  | shaderObjectDestroyed object => rfl
  | _ => first | exact absurd rfl hreports | exact absurd rfl hrecords

/-- Assumes: settings that leave the choice to the application. One hook changes the set of modules
as it changes what is wanted. -/
theorem contains_selectedModules_step (t : Session P)
    (hselects : t.state.settings.selectInstrumentedShaders = true) (hook : Hook)
    (module : ModuleHandle) :
    (t.step hook).state.selectedModules.contains module = true ↔
      hook = .moduleCreated module true ∨
        t.state.selectedModules.contains module = true ∧ hook ≠ .moduleDestroyed module := by
  cases hook with
  | moduleCreated other selected =>
    simp only [step, become, moduleCreated, hselects, Bool.true_and]
    cases selected with
    | true =>
      rw [if_pos rfl, KeySet.contains_add_iff]
      simp
    | false => simp
  | moduleDestroyed other =>
    show (t.state.selectedModules.erase other).contains module = true ↔ _
    rw [KeySet.contains_erase_iff]
    simp
  | _ =>
    rw [selectedModules_step t] <;> simp

/-- The set of modules is that of the modules that are wanted. Assumes: settings that leave the
choice to the application. -/
theorem contains_selectedModules_run (settings : Settings)
    (hselects : settings.selectInstrumentedShaders = true) (device : P.DeviceState)
    (tools : P.ToolState) (storage : P.StorageState) (hooks : List Hook) (module : ModuleHandle) :
    ((start settings device tools storage : Session P).run hooks).state.selectedModules.contains
      module = true ↔ WantsModule hooks module := by
  induction hooks using List.reverseRecOn with
  | nil => exact ⟨fun h ↦ (nomatch h), fun h ↦ absurd h (not_lastsIn_nil _ _)⟩
  | append_singleton hooks hook ih =>
    have hsettings : ((start settings device tools storage : Session P).run
        hooks).state.settings.selectInstrumentedShaders = true := by
      rw [settings_run]
      exact hselects
    rw [run_append, run_cons, run_nil, contains_selectedModules_step _ hsettings hook module, ih,
      wantsModule_concat_iff]

end Session

namespace Instrumentor

/-- Assumes: settings that leave the choice to the application, and that the set of modules is that
of the wanted ones. The stages that are chosen are the wanted ones. -/
theorem isSelected_iff {s : Instrumentor P}
    (hselects : s.settings.selectInstrumentedShaders = true) {hooks : List Hook}
    (hmodules : ∀ module, s.selectedModules.contains module = true ↔ WantsModule hooks module)
    (stage : ShaderStage) : s.isSelected stage = true ↔ WantsStage hooks stage := by
  unfold isSelected WantsStage
  rw [if_pos hselects]
  cases stage.inlined with
  | none => exact hmodules stage.module
  | some inlined =>
    by_cases hnull : stage.module.isNull = true
    · simp only [if_pos hnull]
    · simp only [if_neg hnull]
      exact hmodules stage.module

/-! ### In the midst of a call -/

/-- What a state does for shaders that are not wanted: nothing for a stage, and for a shader object
at most to log that its set layouts conflict. -/
structure LeavesUnwanted (wanted : ShaderStage → Prop) (s : Instrumentor P) : Prop where
  stage : ∀ site stage index, ¬ wanted stage →
    instrumentStage site s (stage, index) = (.untouched site stage, s)
  object : ∀ reservation call (info : ShaderObjectInfo) index, info.selected = false →
    let prepared := prepareShaderObject reservation call s (info, index)
    prepared.1.made = none ∧ prepared.1.info.code = info.code ∧
      ∃ log, prepared.2 = { s with log }

theorem leavesUnwanted {s : Instrumentor P}
    (hselects : s.settings.selectInstrumentedShaders = true) {wanted : ShaderStage → Prop}
    (hwanted : ∀ stage, s.isSelected stage = true ↔ wanted stage) : s.LeavesUnwanted wanted where
  stage site stage index hnot := by
    have hselected : ¬ s.isSelected stage = true := fun h ↦ hnot ((hwanted stage).mp h)
    simp only [instrumentStage]
    cases stage.code with
    | none => rfl
    | some code => simp only [if_neg hselected]
  object reservation call info index hnot := by
    have hskipped : (s.settings.selectInstrumentedShaders && !info.selected) = true := by
      rw [hselects, hnot]
      rfl
    simp only [prepareShaderObject]
    cases reservation.patch (info.setLayouts.map SetLayout.handle) with
    | conflict count => exact ⟨rfl, rfl, _, rfl⟩
    | patched layouts =>
      have hpatched : (s.settings.selectInstrumentedShaders &&
          !(info.patched reservation).selected) = true := hskipped
      unfold instrumentObject
      rw [if_pos hpatched]
      exact ⟨rfl, rfl, s.log, rfl⟩

end Instrumentor

/-! ### Shares -/

/-- What a call does for one stage: its record, the stage that is forwarded, and the attempts that
are made. -/
structure StageShare where
  record : StageRecord
  stage : ShaderStage
  attempts : List Attempt

/-- That a stage has a share. Its record repeats it. One attempt is made at most, on its code and if
it is wanted, and an identifier is that of an attempt that succeeds. -/
structure StageShare.Of (wanted : ShaderStage → Prop)
    (owned : Option PipelineHandle × ShaderStage) (share : StageShare) : Prop where
  repeated : StageRepeated owned (share.record, share.stage)
  once : share.attempts.length ≤ 1
  on : ∀ attempt ∈ share.attempts, wanted owned.2 ∧ owned.2.code = some attempt.code
  identified : ∀ id, share.record.shaderId = some id →
    ∃ attempt ∈ share.attempts, attempt.id = id ∧ attempt.made.isSome = true
  unwanted : ¬ wanted owned.2 →
    share.attempts = [] ∧ share.record.shaderId = none ∧ share.stage = owned.2

/-- What a call does for a pipeline: it forwards it as it is, with nothing attempted, or its stages,
those of its libraries first, have a share each, and nothing but stages and libraries is changed. -/
def PipelineShares (wanted : ShaderStage → Prop) (info : PipelineInfo)
    (turn : PipelineDraft × List Attempt) : Prop :=
  turn = ({ info }, []) ∨
    info.Forwarded turn.1.info ∧ ∃ shares : List StageShare,
      turn.1.records = shares.map StageShare.record ∧
      turn.1.info.allStages.map Prod.snd = shares.map StageShare.stage ∧
      turn.2 = shares.flatMap StageShare.attempts ∧
      List.Forall₂ (StageShare.Of wanted) info.allStages shares

/-- What a call does for a shader object. -/
structure ObjectShare (info : ShaderObjectInfo) (turn : ShaderObjectDraft × List Attempt) :
    Prop where
  once : turn.2.length ≤ 1
  on : ∀ attempt ∈ turn.2, info.selected = true ∧ info.code = attempt.code
  unwanted : info.selected = false →
    turn.2 = [] ∧ turn.1.made = none ∧ turn.1.info.code = info.code

namespace Instrumentor

/-- Code that is sought in a stage is its own, and the stage is chosen. -/
theorem isSelected_of_candidate? {s : Instrumentor P} {stage : ShaderStage} {code : Code}
    (h : s.candidate? stage = some code) : s.isSelected stage = true ∧ stage.code = some code := by
  unfold candidate? at h
  split at h
  · next hchosen =>
    rw [Bool.and_eq_true] at hchosen
    exact ⟨hchosen.2, (Option.filter_eq_some_iff.mp h).1⟩
  · cases h

/-- The turn of a stage is its share. Assumes: that the chosen stages are the wanted ones. -/
theorem share_of_stageTurn {s : Instrumentor P} {wanted : ShaderStage → Prop}
    (hwanted : ∀ stage, s.isSelected stage = true ↔ wanted stage) {bindless : Bool}
    {owned : Option PipelineHandle × ShaderStage} {share : StageShare}
    (hturn : StageTurn s bindless owned.2 share.record share.attempts)
    (hrepeated : StageRepeated owned (share.record, share.stage)) : share.Of wanted owned := by
  obtain ⟨record, stage, attempts⟩ := share
  cases hturn with
  | passed hnone =>
    refine ⟨hrepeated, Nat.zero_le 1, fun _ h ↦ absurd h List.not_mem_nil, fun id hid ↦ ?_,
      fun _ ↦ ⟨rfl, hnone, hrepeated.untouched hnone⟩⟩
    cases hnone.symm.trans hid
  | @attempted attempt hsought _ hid =>
    obtain ⟨hselected, hcode⟩ := isSelected_of_candidate? hsought
    have hasked := (hwanted owned.2).mp hselected
    refine ⟨hrepeated, Nat.le_refl 1, List.forall_mem_singleton.mpr ⟨hasked, hcode⟩,
      fun id hrecord ↦ ?_, fun hnot ↦ absurd hasked hnot⟩
    obtain ⟨hsame, hmade⟩ := hid id hrecord
    exact ⟨attempt, List.mem_singleton_self attempt, hsame.symm, hmade⟩

/-- The turn of a pipeline is what is done for it. Assumes: that the chosen stages are the wanted
ones. -/
theorem shares_of_pipelineTurn {s : Instrumentor P} {wanted : ShaderStage → Prop}
    (hwanted : ∀ stage, s.isSelected stage = true ↔ wanted stage) {info : PipelineInfo}
    {turn : PipelineDraft × List Attempt} (h : s.PipelineTurn info turn) :
    PipelineShares wanted info turn := by
  cases h with
  | passed hnot => exact Or.inl rfl
  | processed _ hchanged hrepeats hturns =>
    obtain ⟨done, hrecords, hforwarded, hrepeated⟩ := hrepeats
    obtain ⟨turns, hsame, hattempts, hstages⟩ := hturns
    obtain ⟨joined, rfl, rfl, hjoined⟩ := exists_joined_of_forall₂ hrepeated
      (List.forall₂_map_left_iff.mp hstages) (hrecords.symm.trans hsame.symm)
    refine Or.inr ⟨hchanged, joined.map fun all ↦ ⟨all.1, all.2.1, all.2.2⟩, ?_, ?_, ?_, ?_⟩
    · rw [hrecords, List.map_map, List.map_map]
      rfl
    · rw [hforwarded, List.map_map, List.map_map]
      rfl
    · rw [← hattempts, List.flatMap_map, List.flatMap_map]
    · rw [List.forall₂_map_right_iff]
      exact hjoined.imp fun _ _ ⟨hone, hturn⟩ ↦ share_of_stageTurn hwanted hturn hone

/-- The turn of a shader object is what is done for it. Assumes: settings that leave the choice to
the application. -/
theorem share_of_objectTurn {s : Instrumentor P}
    (hselects : s.settings.selectInstrumentedShaders = true) {info : ShaderObjectInfo}
    {turn : ShaderObjectDraft × List Attempt} (h : s.ObjectTurn info turn) :
    ObjectShare info turn := by
  cases h with
  | passed hmade hcode =>
    exact ⟨Nat.zero_le 1, fun _ h ↦ absurd h List.not_mem_nil, fun _ ↦ ⟨rfl, hmade, hcode⟩⟩
  | @attempted _ attempt reservation hready hsought hmade hcode =>
    have hon : info.selected = true ∧ info.code = attempt.code := by
      unfold soughtObject seeksObject at hsought
      split at hsought
      · next hgate =>
        simp only [hselects, Bool.not_true, Bool.false_or, Bool.and_eq_true] at hgate
        exact ⟨hgate.1.2.2, congrArg Prod.fst (List.cons.inj hsought).1⟩
      · cases hsought
    refine ⟨Nat.le_refl 1, List.forall_mem_singleton.mpr hon, fun hnot ↦ ?_⟩
    cases hon.1.symm.trans hnot

end Instrumentor

namespace Session

open Instrumentor

/-- That all a hook attempts is shared out among the stages and the shader objects of its call. -/
def SharesOut (t : Session P) (wanted : ShaderStage → Prop) : Hook → Prop
  | .preparePipelines infos location =>
    ∃ turns : List (PipelineDraft × List Attempt),
      List.Forall₂ (PipelineShares wanted) infos turns ∧
      turns.map Prod.fst = (t.state.preparePipelines infos location).1 ∧
      turns.flatMap Prod.snd = t.attempts (.preparePipelines infos location)
  | .prepareShaderObjects infos call =>
    ∃ turns : List (ShaderObjectDraft × List Attempt), List.Forall₂ ObjectShare infos turns ∧
      turns.map Prod.fst = (t.state.prepareShaderObjects infos call).1 ∧
      turns.flatMap Prod.snd = t.attempts (.prepareShaderObjects infos call)
  | hook => t.attempts hook = []

theorem sharesOut_step (t : Session P)
    (hselects : t.state.settings.selectInstrumentedShaders = true) {wanted : ShaderStage → Prop}
    (hwanted : ∀ stage, t.state.isSelected stage = true ↔ wanted stage) (hook : Hook) :
    t.SharesOut wanted hook := by
  cases hook with
  | preparePipelines infos location =>
    obtain ⟨turns, hturns, hrest⟩ := exists_turns_preparePipelines t.state infos location
    exact ⟨turns, hturns.imp fun _ _ ↦ shares_of_pipelineTurn hwanted, hrest⟩
  | prepareShaderObjects infos call =>
    obtain ⟨turns, hturns, hrest⟩ := exists_turns_prepareShaderObjects t.state infos call
    exact ⟨turns, hturns.imp fun _ _ ↦ share_of_objectTurn hselects, hrest⟩
  | _ => rfl

/-- Assumes: settings that leave it to the application which shaders are instrumented. In every run
from the start, on a platform that is observed:

The stages that are chosen are the wanted ones. A module whose handle was destroyed is not wanted
for what was asked before, nor is any stage that has the handle. In the midst of a call nothing is
done for shaders that are not wanted. And all that a hook attempts, with all its calls to the tools
and all numbers that it consumes, is shared out among the stages and shader objects that are
wanted; the other stages, of pipelines and of libraries, keep their modules and their code. -/
theorem only_wanted_attempted (settings : Settings)
    (hselects : settings.selectInstrumentedShaders = true) (device : P.observed.DeviceState)
    (tools : P.observed.ToolState) (storage : P.observed.StorageState) (hooks : List Hook) :
    let t := (start settings device tools storage : Session P.observed).run hooks
    (∀ stage, t.state.isSelected stage = true ↔ WantsStage hooks stage) ∧
    (∀ module older newer, hooks = older ++ .moduleDestroyed module :: newer →
      .moduleCreated module true ∉ newer → ∀ stage : ShaderStage, stage.module = module →
        stage.inlined = none ∨ module.isNull = false → t.state.isSelected stage = false) ∧
    (∀ s, SameChoice t.state s → s.LeavesUnwanted (WantsStage hooks)) ∧
    ∀ hook, t.CountsAttempts hook ∧ t.SharesOut (WantsStage hooks) hook := by
  intro t
  have hsettings : t.state.settings.selectInstrumentedShaders = true := by
    rw [settings_run]
    exact hselects
  have hwanted (stage : ShaderStage) : t.state.isSelected stage = true ↔ WantsStage hooks stage :=
    isSelected_iff hsettings
      (contains_selectedModules_run settings hselects device tools storage hooks) stage
  refine ⟨hwanted, ?_, fun s hsame ↦ ?_, fun hook ↦ ⟨t.countsAttempts_step hook,
    t.sharesOut_step hsettings hwanted hook⟩⟩
  · rintro module older newer hsplit hnone stage rfl hmodule
    have hforgotten : ¬ WantsModule hooks stage.module := by
      rw [hsplit]
      exact not_wantsModule_of_destroyed hnone
    rw [← Bool.not_eq_true, hwanted]
    unfold WantsStage
    rcases hmodule with hnotInlined | hgiven
    · rwa [hnotInlined]
    · rw [hgiven]
      cases stage.inlined <;> exact hforgotten
  · have hchoice (stage : ShaderStage) : s.isSelected stage = true ↔ WantsStage hooks stage := by
      rw [hsame.isSelected_eq]
      exact hwanted stage
    exact leavesUnwanted (by rwa [hsame.settings]) hchoice

/-- A stage with code in a module. -/
def stageFrom (module : ModuleHandle) : ShaderStage :=
  ⟨.empty, module, some guardedAccess, none, "main"⟩

/-- The creation of a compute pipeline with this stage. -/
def creationFrom (module : ModuleHandle) : Hook :=
  .preparePipelines
    [.compute
      { flags := .empty
        stage := stageFrom module
        layout := none
        activeSlots := .empty }]
    "vkCreateComputePipelines"

/-- A module is asked for, and its code is instrumented. Then it is destroyed, and another module
that gets its handle is not asked for. -/
theorem only_wanted_attempted_handle_reused :
    let settings : Settings := { selectInstrumentedShaders := true }
    let first : Session (Simulation.platform false {}).observed :=
      start settings ({}, []) ([], []) []
    let older : List Hook := [.setUpDevice {}, .moduleCreated ⟨7⟩ true]
    let hooks := older ++ .moduleDestroyed ⟨7⟩ :: [.moduleCreated ⟨7⟩ false]
    settings.selectInstrumentedShaders = true ∧
      (first.run older).state.isSelected (stageFrom ⟨7⟩) = true ∧
      ((first.run older).attempts (creationFrom ⟨7⟩)).length = 1 ∧
      (first.run hooks).state.isSelected (stageFrom ⟨7⟩) = false ∧
      (first.run hooks).attempts (creationFrom ⟨7⟩) = [] := by
  intro settings first older hooks
  obtain ⟨hwanted, -⟩ := only_wanted_attempted (P := Simulation.platform false {}) settings rfl
    ({}, []) ([], []) [] older
  obtain ⟨-, hforgotten, -⟩ := only_wanted_attempted (P := Simulation.platform false {}) settings
    rfl ({}, []) ([], []) [] hooks
  have hwish : WantsStage older (stageFrom ⟨7⟩) :=
    ⟨[.setUpDevice {}], .moduleCreated ⟨7⟩ true, [], rfl, rfl, fun _ h ↦ absurd h List.not_mem_nil⟩
  have hnone : .moduleCreated ⟨7⟩ true ∉ [Hook.moduleCreated ⟨7⟩ false] := by simp
  exact ⟨rfl, (hwanted (stageFrom ⟨7⟩)).mpr hwish, by decide +kernel,
    hforgotten ⟨7⟩ older _ rfl hnone (stageFrom ⟨7⟩) rfl (Or.inl rfl), by decide +kernel⟩

end Session

end ShaderGuard
