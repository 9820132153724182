import ShaderGuard.Proofs.OfferedCode
import ShaderGuard.Proofs.ReservedSlot
import ShaderGuard.Proofs.Untouched

/-!
# Switching off in the middle of a call

An internal error switches instrumentation off. Whatever is done behind it in the same call makes no
attempt on any code, and it concerns the log and the device alone (`onlyAsks_of_rewrites`). But it
is not nothing: a library with stages is still created anew, from what the application gave
(`PipelineWork.Late`), and the set layouts of a shader object are still patched
(`ShaderObjectInfo.late`). In a call that is made later, all stays as it is
(`preparePipelines_of_off`, `prepareShaderObjects_of_off`). `late_of_off` has both side by side,
with the pipelines and shader objects for which they agree.
-/

set_option autoImplicit false

namespace ShaderGuard

variable {P : Platform}

namespace Instrumentor

/-! ### Behind the switch -/

/-- That two states differ at most in what was logged and in the device. -/
def OnlyAsks (s t : Instrumentor P) : Prop := ∃ log device, t = { s with log, device }

namespace OnlyAsks

theorem refl (s : Instrumentor P) : OnlyAsks s s := ⟨_, _, rfl⟩

theorem trans {s t u : Instrumentor P} (hst : OnlyAsks s t) (htu : OnlyAsks t u) :
    OnlyAsks s u := by
  obtain ⟨log, device, rfl⟩ := hst
  obtain ⟨log', device', rfl⟩ := htu
  exact ⟨log', device', rfl⟩

theorem subsystem {s t : Instrumentor P} (h : OnlyAsks s t) : t.subsystem = s.subsystem := by
  obtain ⟨log, device, rfl⟩ := h
  rfl

end OnlyAsks

/-- A subsystem that is switched off stays as it is when it is switched off again. -/
theorem disable_of_inactive {subsystem : Subsystem} (h : subsystem.active = false) :
    subsystem.disable = subsystem := by
  cases subsystem
  cases h
  rfl

theorem isInstrumenting_of_inactive {s : Instrumentor P} (hoff : s.subsystem.active = false) :
    s.isInstrumenting = false := by
  unfold isInstrumenting Subsystem.isInstrumenting
  rw [hoff, Bool.false_and]

/-- Once instrumentation is switched off nothing is attempted, and what goes on concerns the log and
the device alone. -/
theorem onlyAsks_of_rewrites :
    Rewrites fun (s : Instrumentor P) attempts t ↦
      s.subsystem.active = false → attempts = [] ∧ OnlyAsks s t where
  refl s _ := ⟨rfl, .refl s⟩
  trans {s t u first second} hst htu hoff := by
    obtain ⟨hfirst, hbefore⟩ := hst hoff
    obtain ⟨hsecond, hafter⟩ := htu (by rwa [hbefore.subsystem])
    rw [hfirst, hsecond]
    exact ⟨rfl, hbefore.trans hafter⟩
  record s entry _ := ⟨rfl, _, _, rfl⟩
  internalError s location message hoff := by
    refine ⟨rfl, s.log ++ s.subsystem.errorEntries location message, s.device, ?_⟩
    unfold internalError
    rw [disable_of_inactive hoff]
  createModule s code _ := ⟨rfl, _, _, rfl⟩
  createLibrary s info _ := ⟨rfl, _, _, rfl⟩
  instrumentCode s code bindless location hoff := by
    have hinactive := isInstrumenting_of_inactive hoff
    unfold codeAttempts
    rw [instrumentCode_of_off hinactive, hinactive]
    exact ⟨by simp, .refl s⟩

/-- Assumes: that shaders were rewritten in a state, and are not in a later one with the same
settings. Then instrumentation has been switched off. -/
theorem inactive_of_settings_eq {s t : Instrumentor P} (hsettings : t.settings = s.settings)
    (hactive : s.isInstrumenting = true) (hoff : t.isInstrumenting = false) :
    t.subsystem.active = false := by
  have hmodifies : t.subsystem.settings.modifiesShaders = true := by
    have hsame : t.subsystem.settings = s.subsystem.settings := hsettings
    rw [hsame]
    exact (Bool.and_eq_true_iff.mp hactive).2
  unfold isInstrumenting Subsystem.isInstrumenting at hoff
  rwa [hmodifies, Bool.and_true] at hoff

end Instrumentor

/-! ### Pipelines behind the switch -/

/-- A stage on which no attempt was made has no identifier. -/
theorem StageWork.Of.uninstrumented {site : Instrumentor.StageSite} {stage : ShaderStage}
    {work : StageWork} (h : StageWork.Of site stage work) (hnone : work.attempts = []) :
    work.outcome.record.shaderId = none := by
  cases h with
  | left => rfl
  | _ => cases hnone

theorem StageWork.uninstrumented_of_forall₂ {site : Instrumentor.StageSite}
    {stages : List ShaderStage} {works : List StageWork}
    (h : List.Forall₂ (StageWork.Of site) stages works)
    (hnone : works.flatMap StageWork.attempts = []) : Uninstrumented works := by
  intro work hwork
  obtain ⟨stage, -, hof⟩ := exists_mem_of_forall₂ h hwork
  exact hof.uninstrumented (List.flatMap_eq_nil_iff.mp hnone work hwork)

theorem LibraryWork.Of.uninstrumented {site : Instrumentor.StageSite} {library : GraphicsLibrary}
    {work : LibraryWork} (h : LibraryWork.Of site library work) (hnone : work.attempts = []) :
    Uninstrumented work.stages := by
  cases h with
  | empty => exact fun _ hwork ↦ absurd hwork List.not_mem_nil
  | relinked _ hstages _ => exact StageWork.uninstrumented_of_forall₂ hstages hnone
  | refused _ hstages _ => exact StageWork.uninstrumented_of_forall₂ hstages hnone

/-- A library none of whose stages is instrumented is kept if nothing is created for it. -/
theorem LibraryWork.Spared.kept_of_quiet {library : GraphicsLibrary} {work : LibraryWork}
    (h : LibraryWork.Spared library work) (hquiet : creations work.calls = []) :
    LibraryWork.Kept library work := by
  by_contra hnot
  obtain ⟨handle, -, hcreated⟩ := h.relinked hnot
  rw [hquiet] at hcreated
  cases hcreated

namespace PipelineWork

/-- What becomes of a pipeline behind the switch. No attempt is made for it and no stage has an
identifier. If it is processed each of its libraries with stages is created anew from exactly what
the application gave, unless the device refuses; nothing else is created for it or changed in it. -/
structure Late (processed : Prop) (info : PipelineInfo) (work : PipelineWork) : Prop where
  attempts : work.attempts = []
  records : ∀ record ∈ work.draft.records, record.shaderId = none
  skipped : ¬ processed → work = { draft := { info } }
  libraries : processed → List.Forall₂ LibraryWork.Spared info.libraries work.libraries
  linked : processed → work.draft.info = info.withLibraries (work.libraries.map LibraryWork.linked)
  created : creations work.calls = work.libraries.flatMap fun library ↦ creations library.calls
  /-- The pipeline is forwarded as it was given, with nothing created for it, exactly if all its
  libraries are kept. -/
  asGiven : work.draft.info = info ∧ creations work.calls = [] ↔
    (processed → List.Forall₂ LibraryWork.Kept info.libraries work.libraries)

/-- No stage of a pipeline for which no attempt was made has an identifier. -/
theorem Of.uninstrumented {site : Instrumentor.StageSite} {info : PipelineInfo}
    {work : PipelineWork} (h : work.Of site info) (hnone : work.attempts = []) :
    (∀ library ∈ work.libraries, Uninstrumented library.stages) ∧ Uninstrumented work.own := by
  obtain ⟨hlibraries, hown⟩ := List.append_eq_nil_iff.mp hnone
  constructor
  · intro library hlibrary
    obtain ⟨given, -, hof⟩ := exists_mem_of_forall₂ h.libraries hlibrary
    exact hof.uninstrumented (List.flatMap_eq_nil_iff.mp hlibraries library hlibrary)
  · exact StageWork.uninstrumented_of_forall₂ h.own hown

/-- What is done for a pipeline that is processed without an attempt. -/
theorem Of.late {processed : Prop} (hprocessed : processed) {site : Instrumentor.StageSite}
    {info : PipelineInfo} {work : PipelineWork} (h : work.Of site info)
    (hnone : work.attempts = []) : work.Late processed info := by
  obtain ⟨hlibraries, hown⟩ := h.uninstrumented hnone
  have hspared : List.Forall₂ LibraryWork.Spared info.libraries work.libraries :=
    (forall₂_and_of_mem h.untouched.libraries hlibraries).imp fun _ _ hone ↦ hone.1.spared hone.2
  have hall : Uninstrumented work.stages := by
    intro stage hstage
    rcases List.mem_append.mp hstage with hstage | hstage
    · obtain ⟨library, hlibrary, hstage⟩ := List.mem_flatMap.mp hstage
      exact hlibraries library hlibrary stage hstage
    · exact hown stage hstage
  obtain ⟨hinfo, hquiet⟩ := h.untouched.own hown
  have hcreated : creations work.calls =
      work.libraries.flatMap fun library ↦ creations library.calls := by
    unfold calls
    rw [creations_append, hquiet, List.append_nil]
    exact List.filter_flatMap
  refine ⟨hnone, ?_, fun hnot ↦ absurd hprocessed hnot, fun _ ↦ hspared, fun _ ↦ hinfo, hcreated,
    ?_, ?_⟩
  · intro record hrecord
    rw [h.records] at hrecord
    obtain ⟨stage, hstage, rfl⟩ := List.mem_map.mp hrecord
    exact hall stage hstage
  · rintro ⟨-, hsilent⟩ -
    rw [hcreated] at hsilent
    exact (forall₂_and_of_mem hspared (List.flatMap_eq_nil_iff.mp hsilent)).imp
      fun _ _ hone ↦ hone.1.kept_of_quiet hone.2
  · exact fun hkept ↦ h.untouched.whole hall (hkept hprocessed)

/-- What is done for a pipeline without an attempt. -/
theorem Due.late {processed : Prop} {info : PipelineInfo} {work : PipelineWork}
    (h : Due processed info work) (hnone : work.attempts = []) : work.Late processed info := by
  by_cases hprocessed : processed
  · obtain ⟨call, hof⟩ := h.done hprocessed
    exact hof.late hprocessed hnone
  · have hskipped := h.spared hprocessed
    rw [hskipped]
    refine ⟨rfl, ?_, fun _ ↦ rfl, fun hyes ↦ absurd hyes hprocessed,
      fun hyes ↦ absurd hyes hprocessed, rfl, fun _ hyes ↦ absurd hyes hprocessed, ?_⟩
    · exact fun record hrecord ↦ absurd hrecord List.not_mem_nil
    · exact fun _ ↦ ⟨rfl, rfl⟩

end PipelineWork

/-! ### Shader objects behind the switch -/

/-- What becomes of a shader object behind the switch: its code stays as it is, but its set layouts
are patched. -/
def ShaderObjectInfo.late (reservation : Reservation) (info : ShaderObjectInfo) :
    ShaderObjectDraft :=
  { info := if info.setLayouts.length ≤ reservation.slot.toNat then info.patched reservation
      else info }

/-- A shader object is forwarded as it was given exactly if it has a set layout at the slot. -/
theorem ShaderObjectInfo.late_eq_iff (reservation : Reservation) (info : ShaderObjectInfo) :
    info.late reservation = { info } ↔ reservation.slot.toNat < info.setLayouts.length := by
  unfold late
  by_cases hfree : info.setLayouts.length ≤ reservation.slot.toNat
  · rw [if_pos hfree]
    refine ⟨fun hsame ↦ ?_, fun htaken ↦ absurd hfree (Nat.not_le_of_lt htaken)⟩
    have hlength := congrArg (fun draft ↦ draft.info.setLayouts.length) hsame
    simp [patched, Reservation.fillers] at hlength
  · rw [if_neg hfree]
    exact ⟨fun _ ↦ Nat.lt_of_not_le hfree, fun _ ↦ rfl⟩

namespace Instrumentor

theorem prepareShaderObject_of_off (reservation : Reservation) (call : String)
    {s : Instrumentor P} (hoff : s.isInstrumenting = false) (indexed : ShaderObjectInfo × Nat) :
    (prepareShaderObject reservation call s indexed).1 = indexed.1.late reservation := by
  unfold prepareShaderObject ShaderObjectInfo.late
  rcases reservation.patch_cases (indexed.1.setLayouts.map SetLayout.handle) with
    ⟨hfree, hpatch⟩ | ⟨htaken, hpatch⟩
  · rw [List.length_map] at hfree
    simp only [hpatch, if_pos hfree, instrumentObject, instrumentCode_of_off hoff,
      ite_self]
  · rw [List.length_map] at htaken
    simp only [hpatch, if_neg (Nat.not_le_of_lt htaken)]

/-- Shader objects that are prepared where instrumentation is switched off. -/
theorem map_late_of_off (reservation : Reservation) (call : String) {s : Instrumentor P}
    (hoff : s.isInstrumenting = false) (infos : List ShaderObjectInfo) (first : Nat) :
    (thread (prepareShaderObject reservation call) s (infos.zipIdx first)).1 =
      infos.map (ShaderObjectInfo.late reservation) := by
  have hall := (forall₂_thread_of_keeps (fun t : Instrumentor P ↦ t.isInstrumenting = false)
    (fun (indexed : ShaderObjectInfo × Nat) draft ↦ indexed.1.late reservation = draft)
    (prepareShaderObject reservation call)
    (fun t indexed ht ↦ ⟨off_of_rewrites.prepareShaderObject reservation call t indexed ht,
      (prepareShaderObject_of_off reservation call ht indexed).symm⟩)
    hoff (infos.zipIdx first)).2
  have hplain := List.forall₂_map_left_iff.mpr
    (forall₂_of_zipIdx (R := fun (info : ShaderObjectInfo) draft ↦ info.late reservation = draft)
      hall)
  rw [List.forall₂_eq_eq_eq] at hplain
  exact hplain.symm

/-! ### Whole calls -/

/-- What is left to be done in a call for pipelines when those before them have left
instrumentation switched off. -/
structure LatePipelines (s : Instrumentor P.audited) (older newer : List PipelineInfo)
    (location : String) (works : List PipelineWork) : Prop where
  drafts : (s.preparePipelines (older ++ newer) location).1 =
    (s.preparePipelines older location).1 ++ works.map PipelineWork.draft
  attempts : s.pipelinesAttempts (older ++ newer) location = s.pipelinesAttempts older location
  state : OnlyAsks (s.preparePipelines older location).2
    (s.preparePipelines (older ++ newer) location).2
  calls : (s.preparePipelines older location).2.Asks (works.flatMap PipelineWork.calls)
    (s.preparePipelines (older ++ newer) location).2
  late : List.Forall₂ (fun info work ↦ PipelineWork.Late (s.Processes info) info work) newer works

theorem exists_latePipelines {s : Instrumentor P.audited} (hactive : s.isInstrumenting = true)
    (older newer : List PipelineInfo) (location : String)
    (hoff : (s.preparePipelines older location).2.isInstrumenting = false) :
    ∃ works, s.LatePipelines older newer location works := by
  cases hslot : s.reservedSlot with
  | none =>
    rw [preparePipelines_of_spared (Or.inl hslot), hactive] at hoff
    cases hoff
  | some slot =>
    let before := (s.preparePipelines older location).2
    have hsettings := (SameHoldings.rewrites.preparePipelines s older location).settings
    have hinactive : before.subsystem.active = false :=
      inactive_of_settings_eq hsettings hactive hoff
    obtain ⟨hquiet, honly⟩ := onlyAsks_of_rewrites.toChains.thread
      (onlyAsks_of_rewrites.preparePipeline slot location) before (newer.zipIdx older.length)
      hinactive
    obtain ⟨works, hworks, hdrafts, hattempts, hcalls⟩ := exists_sheets_thread chains_asks
      (exists_work_preparePipeline slot location) before (newer.zipIdx older.length)
    have hall := preparePipelines_append hslot hactive older newer location
    have hprocesses (info : PipelineInfo) : s.Processes info ↔ isEligible info slot = true := by
      simp [Processes, hactive, hslot]
    have hnone : ∀ work ∈ works, work.attempts = [] :=
      List.flatMap_eq_nil_iff.mp (hattempts.trans hquiet)
    refine ⟨works, ⟨?_, ?_, ?_, ?_, ?_⟩⟩
    · rw [hall, hdrafts]
    · rw [pipelinesAttempts_append hslot hactive older newer location]
      exact (congrArg _ hquiet).trans (List.append_nil _)
    · rw [hall]
      exact honly
    · rw [hall]
      exact hcalls
    · have hdue : List.Forall₂
          (fun info work ↦ PipelineWork.Due (isEligible info slot = true) info work)
          newer works := forall₂_of_zipIdx hworks
      simp only [hprocesses]
      exact (forall₂_and_of_mem hdue hnone).imp fun _ _ hone ↦ hone.1.late hone.2

/-- Pipelines of a call that is made when instrumentation is switched off stay as they are. -/
theorem preparePipelines_of_off {s : Instrumentor P} (hoff : s.isInstrumenting = false)
    (infos : List PipelineInfo) (location : String) :
    s.preparePipelines infos location = (infos.map fun info ↦ { info }, s) :=
  preparePipelines_of_spared (Or.inr hoff) infos location

theorem prepareShaderObjects_of_off {s : Instrumentor P} (hoff : s.isInstrumenting = false)
    (infos : List ShaderObjectInfo) (call : String) :
    s.prepareShaderObjects infos call = (infos.map fun info ↦ { info }, s) :=
  prepareShaderObjects_of_spared (Or.inr hoff) infos call

/-- What is left to be done in a call for shader objects when those before them have left
instrumentation switched off. -/
structure LateObjects (s : Instrumentor P) (older newer : List ShaderObjectInfo) (call : String)
    (reservation : Reservation) : Prop where
  reserved : s.reservation = some reservation
  drafts : (s.prepareShaderObjects (older ++ newer) call).1 =
    (s.prepareShaderObjects older call).1 ++ newer.map (ShaderObjectInfo.late reservation)
  attempts : s.objectsAttempts (older ++ newer) call = s.objectsAttempts older call
  state : OnlyAsks (s.prepareShaderObjects older call).2
    (s.prepareShaderObjects (older ++ newer) call).2
  device : (s.prepareShaderObjects (older ++ newer) call).2.device =
    (s.prepareShaderObjects older call).2.device

theorem exists_lateObjects {s : Instrumentor P} (hactive : s.isInstrumenting = true)
    (older newer : List ShaderObjectInfo) (call : String)
    (hoff : (s.prepareShaderObjects older call).2.isInstrumenting = false) :
    ∃ reservation, s.LateObjects older newer call reservation := by
  cases hready : s.reservation with
  | none =>
    have hkept : (s.prepareShaderObjects older call).2 = s := by
      unfold prepareShaderObjects
      rw [hready]
    rw [hkept, hactive] at hoff
    cases hoff
  | some reservation =>
    let before := (s.prepareShaderObjects older call).2
    have hsettings := (SameHoldings.rewrites.prepareShaderObjects s older call).settings
    have hinactive : before.subsystem.active = false :=
      inactive_of_settings_eq hsettings hactive hoff
    obtain ⟨hquiet, honly⟩ := onlyAsks_of_rewrites.toChains.thread
      (onlyAsks_of_rewrites.prepareShaderObject reservation call) before
      (newer.zipIdx older.length) hinactive
    have hall := prepareShaderObjects_append hready hactive older newer call
    refine ⟨reservation, ⟨hready, ?_, ?_, ?_, ?_⟩⟩
    · rw [hall]
      exact congrArg _ (map_late_of_off reservation call hoff newer older.length)
    · rw [objectsAttempts_append hready hactive older newer call]
      exact (congrArg _ hquiet).trans (List.append_nil _)
    · rw [hall]
      exact honly
    · rw [hall]
      exact thread_invariant _ (fun t : Instrumentor P ↦ t.device = before.device)
        (fun t indexed ht ↦ (device_prepareShaderObject reservation call t indexed).trans ht)
        before _ rfl

/-! ### The switch -/

/-- Assumes: that shaders are rewritten when a call begins. Once instrumentation is switched off in
the call, nothing is attempted for what stands behind: no tool is called, no identifier is consumed
and the cache stays as it is. A pipeline is then forwarded as it was given, with nothing created for
it, exactly if each of its libraries is kept, having no stages or being refused by the device; a
shader object exactly if it has a set layout at the slot. In a call of their own all of them are. -/
theorem late_of_off (s : Instrumentor P.audited) (hactive : s.isInstrumenting = true) :
    (∀ older newer location, (s.preparePipelines older location).2.isInstrumenting = false →
      (∃ works, s.LatePipelines older newer location works) ∧
        (s.preparePipelines older location).2.preparePipelines newer location =
          (newer.map fun info ↦ { info }, (s.preparePipelines older location).2)) ∧
    ∀ older newer call, (s.prepareShaderObjects older call).2.isInstrumenting = false →
      (∃ reservation, s.LateObjects older newer call reservation ∧
        ∀ info : ShaderObjectInfo, info.late reservation = { info } ↔
          reservation.slot.toNat < info.setLayouts.length) ∧
        (s.prepareShaderObjects older call).2.prepareShaderObjects newer call =
          (newer.map fun info ↦ { info }, (s.prepareShaderObjects older call).2) := by
  constructor
  · intro older newer location hoff
    constructor
    · exact exists_latePipelines hactive older newer location hoff
    · exact preparePipelines_of_off hoff newer location
  · intro older newer call hoff
    obtain ⟨reservation, hlate⟩ := exists_lateObjects hactive older newer call hoff
    constructor
    · exact ⟨reservation, hlate, fun info ↦ info.late_eq_iff reservation⟩
    · exact prepareShaderObjects_of_off hoff newer call

/-- Code that the loader gives up at. -/
def unloadableCode : Code := [0x07230203, 0x10300, 0, 16, 0, Simulation.unloadable]

/-- A pipeline at which instrumentation is switched off where the loader fails. -/
def unloadablePipeline : PipelineInfo := .graphics (plainInfo [stageOf ⟨20⟩ unloadableCode] [])

/-- A shader object without set layouts. -/
def objectOf (code : Code) : ShaderObjectInfo := ⟨.empty, code, [], false, "main"⟩

/-- The first create info of each call has code that the loader gives up at. -/
theorem late_of_off_unloadable :
    let first : Session (Simulation.platform false {}).audited := .start {} ({}, []) [] []
    let s := (first.step (.setUpDevice {})).state
    s.isInstrumenting = true ∧
      (∃ works, s.LatePipelines [unloadablePipeline] [linkedWith [0x07230203, 0x10300, 0, 16, 0]]
        "vkCreateGraphicsPipelines" works ∧ works.length = 1) ∧
      ∃ reservation, s.LateObjects [objectOf unloadableCode]
        [objectOf [0x07230203, 0x10300, 0, 16, 0]] "vkCreateShadersEXT" reservation := by
  intro first s
  have hactive : s.isInstrumenting = true := by decide +kernel
  obtain ⟨hpipelines, hobjects⟩ := late_of_off s hactive
  have hoff : (s.preparePipelines [unloadablePipeline]
      "vkCreateGraphicsPipelines").2.isInstrumenting = false := by decide +kernel
  have hobjectsOff : (s.prepareShaderObjects [objectOf unloadableCode]
      "vkCreateShadersEXT").2.isInstrumenting = false := by decide +kernel
  obtain ⟨⟨works, hlate⟩, -⟩ := hpipelines [unloadablePipeline]
    [linkedWith [0x07230203, 0x10300, 0, 16, 0]] "vkCreateGraphicsPipelines" hoff
  obtain ⟨⟨reservation, hlateObjects, -⟩, -⟩ := hobjects [objectOf unloadableCode]
    [objectOf [0x07230203, 0x10300, 0, 16, 0]] "vkCreateShadersEXT" hobjectsOff
  exact ⟨hactive, ⟨works, hlate, hlate.late.length_eq.symm⟩, reservation, hlateObjects⟩

/-- The first create info of a call switches instrumentation off. The library of the second one is
created anew all the same, and the set layouts of a second shader object are patched. -/
theorem late_though_off :
    let first : Session (Simulation.platform false {}) := .start {} {} [] []
    let s := (first.step (.setUpDevice {})).state
    let pipelines := s.preparePipelines
      [unloadablePipeline, linkedWith [0x07230203, 0x10300, 0, 16, 0]] "vkCreateGraphicsPipelines"
    let objects := s.prepareShaderObjects
      [objectOf unloadableCode, objectOf [0x07230203, 0x10300, 0, 16, 0]] "vkCreateShadersEXT"
    (s.preparePipelines [unloadablePipeline] "vkCreateGraphicsPipelines").2.isInstrumenting =
        false ∧
      pipelines.1.map (fun draft ↦ draft.info.libraries.map LinkedLibrary.handle) =
        [[], [⟨0x10003⟩]] ∧
      (s.prepareShaderObjects [objectOf unloadableCode] "vkCreateShadersEXT").2.isInstrumenting =
        false ∧
      objects.1.map (fun draft ↦ draft.info.setLayouts.length) = [8, 8] := by
  decide +kernel

end Instrumentor

end ShaderGuard
