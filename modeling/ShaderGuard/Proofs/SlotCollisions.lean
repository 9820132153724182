import ShaderGuard.Proofs.CachedCode
import ShaderGuard.Proofs.OfferedCode
import ShaderGuard.Proofs.TruthfulRecords

/-!
# Collisions with the reserved slot

A pipeline whose own layout or shaders use the reserved slot is not eligible, and none of its stages
is instrumented. What its libraries declare is not looked at. `RecordsBy` follows the records of
stages through everything that is done before pipelines are created: whatever the device and the
tools do, only a stage that can be instrumented has an identifier (`recordsBy_isInstrumentable`),
and on a platform on which nothing fails every such stage has one (`recordsBy_serves`). So the
instrumented stages leave the slot free, whatever happens, exactly if no library that uses the slot
has a stage that can be instrumented (`PipelineInfo.leavesFree_iff`). One such library is enough for
a collision (`PipelineInfo.instrumented_though_claimed`).
-/

set_option autoImplicit false

namespace ShaderGuard

open Bytecode (hasMagic)
open Instrumentor

variable {P : Platform}

/-! ### Who uses a slot -/

/-- Whether the layout or the shaders that a graphics pipeline or library declares use a slot. -/
def GraphicsInfo.claims (info : GraphicsInfo) (slot : UInt32) : Bool :=
  claimsSlot info.layout info.activeSlots slot

/-- Whether a stage runs instrumented code if nothing fails: it has code that a shader begins with,
and a place for other words. -/
def ShaderStage.isInstrumentable (stage : ShaderStage) : Bool :=
  stage.code.any hasMagic && (!stage.module.isNull || stage.inlined.isSome)

/-- Whether a pipeline is linked from a library that uses a slot and has a stage to instrument. -/
def PipelineInfo.collides (info : PipelineInfo) (slot : UInt32) : Bool :=
  info.libraries.any fun library ↦
    library.info.claims slot && library.info.stages.any ShaderStage.isInstrumentable

/-- That neither a pipeline nor the library of an instrumented stage in its draft uses a slot. -/
def PipelineDraft.LeavesFree (draft : PipelineDraft) (info : PipelineInfo) (slot : UInt32) : Prop :=
  ∀ place ∈ info.placedStages.zip draft.records, place.2.shaderId.isSome = true →
    info.claims slot = false ∧
      ∀ library, place.1.1 = some library → library.info.claims slot = false

theorem mem_placedStages_iff {info : PipelineInfo} {library : GraphicsLibrary}
    {stage : ShaderStage} :
    (some library, stage) ∈ info.placedStages ↔
      library ∈ info.libraries ∧ stage ∈ library.info.stages := by
  simp only [PipelineInfo.placedStages, inPlace, List.mem_append, List.mem_flatMap, List.mem_map,
    Prod.mk.injEq, Option.some.injEq, reduceCtorEq, false_and, and_false, exists_false, or_false]
  constructor
  · rintro ⟨other, hother, place, hplace, rfl, rfl⟩
    exact ⟨hother, hplace⟩
  · rintro ⟨hlibrary, hstage⟩
    exact ⟨library, hlibrary, stage, hstage, rfl, rfl⟩

/-- Assumes: that no library which uses the slot has a stage to instrument, that the pipeline itself
leaves the slot free, and that only stages that can be instrumented have an identifier. Then the
draft leaves the slot free. -/
theorem PipelineDraft.leavesFree_of_collides {draft : PipelineDraft} {info : PipelineInfo}
    {slot : UInt32} (hown : info.claims slot = false) (hnone : info.collides slot = false)
    (hrecords : List.Forall₂ (fun place (record : StageRecord) ↦
      record.shaderId.isSome = true → place.2.isInstrumentable = true) info.placedStages
      draft.records) : draft.LeavesFree info slot := by
  intro place hplace hid
  refine ⟨hown, fun library hlibrary ↦ ?_⟩
  have hstage := (List.forall₂_iff_zip.mp hrecords).2 hplace hid
  have hmem : (some library, place.1.2) ∈ info.placedStages := by
    rw [← hlibrary]
    exact (List.of_mem_zip hplace).1
  obtain ⟨hlinked, hin⟩ := mem_placedStages_iff.mp hmem
  by_contra hclaims
  rw [Bool.not_eq_false] at hclaims
  have hcollides : info.collides slot = true := by
    refine List.any_eq_true.mpr ⟨library, hlinked, ?_⟩
    rw [hclaims, Bool.true_and]
    exact List.any_eq_true.mpr ⟨place.1.2, hin, hstage⟩
  rw [hnone] at hcollides
  cases hcollides

/-- Assumes: that every stage that can be instrumented has an identifier. If the draft leaves the
slot free, no library which uses it has a stage to instrument. -/
theorem PipelineDraft.LeavesFree.collides_eq_false {draft : PipelineDraft} {info : PipelineInfo}
    {slot : UInt32} (h : draft.LeavesFree info slot)
    (hrecords : List.Forall₂ (fun place (record : StageRecord) ↦
      place.2.isInstrumentable = true → record.shaderId.isSome = true) info.placedStages
      draft.records) : info.collides slot = false := by
  refine List.any_eq_false.mpr fun library hlibrary hcollides ↦ ?_
  obtain ⟨hclaims, hsome⟩ := Bool.and_eq_true_iff.mp hcollides
  obtain ⟨stage, hstage, hcan⟩ := List.any_eq_true.mp hsome
  obtain ⟨record, hplace, hid⟩ :=
    exists_zip_of_forall₂ hrecords (mem_placedStages_iff.mpr ⟨hlibrary, hstage⟩)
  have hfree := (h _ hplace (hid hcan)).2 library rfl
  rw [hclaims] at hfree
  cases hfree

namespace Instrumentor

/-! ### Records and their stages -/

/-- A property of states, and how records stand to stages in states with this property, kept by
everything that is done before pipelines are created. -/
structure RecordsBy (keeps : Instrumentor P → Prop) (Q : ShaderStage → StageRecord → Prop) :
    Prop where
  stage : ∀ site s indexed, keeps s → keeps (instrumentStage site s indexed).2 ∧
    Q indexed.1 (instrumentStage site s indexed).1.record
  created : ∀ s info handle, keeps s → (s.createLibrary info).1 = .ok handle →
    keeps (s.createLibrary info).2
  refused : ∀ s info fault location message, keeps s → (s.createLibrary info).1 = .error fault →
    keeps ((s.createLibrary info).2.internalError location message)
  record : ∀ s entry, keeps s → keeps (s.record entry)

namespace RecordsBy

variable {keeps : Instrumentor P → Prop} {Q : ShaderStage → StageRecord → Prop}

theorem instrumentStages (h : RecordsBy keeps Q) (site : StageSite) {s : Instrumentor P}
    (hs : keeps s) (stages : List ShaderStage) :
    keeps (instrumentStages site s stages).2 ∧
      List.Forall₂ Q stages
        ((Instrumentor.instrumentStages site s stages).1.map StageOutcome.record) := by
  obtain ⟨hlast, hrecords⟩ := forall₂_thread_of_keeps keeps
    (fun (indexed : ShaderStage × Nat) (outcome : StageOutcome) ↦ Q indexed.1 outcome.record)
    (instrumentStage site) (h.stage site) hs stages.zipIdx
  refine ⟨hlast, List.forall₂_map_right_iff.mpr ?_⟩
  exact forall₂_of_zipIdx hrecords

theorem relinkLibrary (h : RecordsBy keeps Q) (site : StageSite) (link : LinkState P)
    (library : GraphicsLibrary) (hs : keeps link.state) :
    keeps (relinkLibrary site link library).2.state ∧
      List.Forall₂ Q library.info.stages
        (Instrumentor.relinkLibrary site link library).1.records := by
  unfold Instrumentor.relinkLibrary
  by_cases hempty : library.info.stages.isEmpty = true
  · rw [if_pos hempty, List.isEmpty_iff.mp hempty]
    exact ⟨hs, List.Forall₂.nil⟩
  · rw [if_neg hempty]
    obtain ⟨hstaged, hrecords⟩ :=
      h.instrumentStages { site with library := some library.handle } hs library.info.stages
    simp only []
    split
    · next handle hcreated => exact ⟨h.created _ _ _ hstaged hcreated, hrecords⟩
    · next fault hrefused => exact ⟨h.refused _ _ _ _ _ hstaged hrefused, hrecords⟩

/-- The records of a pipeline that is eligible stand to its stages. -/
theorem preparePipeline (h : RecordsBy keeps Q) (slot : UInt32) (location : String)
    {s : Instrumentor P} (hs : keeps s) (indexed : PipelineInfo × Nat) :
    keeps (preparePipeline slot location s indexed).2 ∧ (isEligible indexed.1 slot = true →
      List.Forall₂ (fun place record ↦ Q place.2 record) indexed.1.placedStages
        (Instrumentor.preparePipeline slot location s indexed).1.records) := by
  unfold Instrumentor.preparePipeline
  by_cases heligible : isEligible indexed.1 slot = true
  · rw [if_pos heligible]
    let site : StageSite := ⟨none, indexed.1.isBindless, elementOf location indexed.2⟩
    have hstart : keeps (LinkState.mk {} s).state := hs
    obtain ⟨hlinked, hlibraries⟩ := forall₂_thread_of_keeps (fun link ↦ keeps link.state)
      (fun (library : GraphicsLibrary) outcome ↦
        List.Forall₂ Q library.info.stages outcome.records)
      (Instrumentor.relinkLibrary site) (h.relinkLibrary site) hstart indexed.1.libraries
    obtain ⟨hstaged, hown⟩ := h.instrumentStages site hlinked indexed.1.stages
    refine ⟨h.record _ _ hstaged, fun _ ↦ ?_⟩
    refine List.rel_append ?_ (List.forall₂_map_left_iff.mpr hown)
    exact List.rel_flatMap hlibraries fun _ _ hone ↦ List.forall₂_map_left_iff.mpr hone
  · rw [if_neg heligible]
    exact ⟨hs, fun hyes ↦ absurd hyes heligible⟩

/-- In a call, each draft has no records, or it has those of a pipeline that is eligible. -/
theorem preparePipelines (h : RecordsBy keeps Q) {s : Instrumentor P} (hs : keeps s)
    {slot : UInt32} (hslot : s.reservedSlot = some slot) (infos : List PipelineInfo)
    (location : String) :
    List.Forall₂
      (fun info (draft : PipelineDraft) ↦ draft.records = [] ∨ isEligible info slot = true ∧
        List.Forall₂ (fun place record ↦ Q place.2 record) info.placedStages draft.records)
      infos (s.preparePipelines infos location).1 := by
  simp only [Instrumentor.preparePipelines, hslot]
  by_cases hactive : s.isInstrumenting = true
  · rw [if_pos hactive]
    refine forall₂_of_zipIdx (forall₂_thread_of_keeps keeps
      (fun (indexed : PipelineInfo × Nat) (draft : PipelineDraft) ↦
        draft.records = [] ∨ isEligible indexed.1 slot = true ∧
          List.Forall₂ (fun place record ↦ Q place.2 record) indexed.1.placedStages draft.records)
      (Instrumentor.preparePipeline slot location) (fun t indexed ht ↦ ?_) hs infos.zipIdx).2
    obtain ⟨hnext, hrecords⟩ := h.preparePipeline slot location ht indexed
    refine ⟨hnext, ?_⟩
    by_cases heligible : isEligible indexed.1 slot = true
    · exact Or.inr ⟨heligible, hrecords heligible⟩
    · left
      rw [Instrumentor.preparePipeline, if_neg heligible]
  · rw [if_neg hactive, List.forall₂_map_right_iff, List.forall₂_same]
    exact fun _ _ ↦ Or.inl rfl

end RecordsBy

/-! ### Whatever the device and the tools do -/

/-- Code that something comes of is a shader's. -/
theorem hasMagic_of_made {s : Instrumentor P} {code : Code} {bindless : Bool} {location : String}
    {made : InstrumentedCode} (h : (s.instrumentCode code bindless location).1 = some made) :
    hasMagic code = true := by
  have hattempt := codeAttempts_of_made h
  unfold codeAttempts at hattempt
  split at hattempt
  · next hgate => exact (Bool.and_eq_true_iff.mp hgate).2
  · cases hattempt

/-- A stage gets an identifier only if it can be instrumented. -/
theorem isInstrumentable_of_shaderId {site : StageSite} {s : Instrumentor P}
    {indexed : ShaderStage × Nat}
    (h : (instrumentStage site s indexed).1.record.shaderId.isSome = true) :
    indexed.1.isInstrumentable = true := by
  unfold ShaderStage.isInstrumentable
  simp only [instrumentStage] at h
  cases hcode : indexed.1.code with
  | none =>
    rw [hcode] at h
    cases h
  | some code =>
    simp only [hcode] at h
    by_cases hselected : s.isSelected indexed.1 = true
    · rw [if_pos hselected] at h
      cases hmade : (s.instrumentCode code site.bindless site.location).1 with
      | none =>
        rw [hmade] at h
        cases h
      | some made =>
        simp only [hmade, placeCode] at h
        rw [Option.any_some, hasMagic_of_made hmade, Bool.true_and]
        cases hgiven : indexed.1.module.isNull with
        | false => rfl
        | true =>
          cases hinlined : indexed.1.inlined.isSome with
          | true => rfl
          | false =>
            rw [hgiven, hinlined] at h
            cases h
    · rw [if_neg hselected] at h
      cases h

theorem recordsBy_isInstrumentable : RecordsBy (fun _ : Instrumentor P ↦ True)
    fun stage record ↦ record.shaderId.isSome = true → stage.isInstrumentable = true where
  stage _ _ _ _ := ⟨trivial, isInstrumentable_of_shaderId⟩
  created _ _ _ _ _ := trivial
  refused _ _ _ _ _ _ _ := trivial
  record _ _ _ := trivial

/-! ### Where nothing fails -/

/-- A device that creates whatever it is asked for. -/
def obligingDevice : Device Unit where
  createSetLayout _ _ := ⟨.ok ⟨1⟩, [], ()⟩
  createPipelineLayout _ _ := ⟨.ok ⟨1⟩, [], ()⟩
  createModule _ _ := ⟨.ok ⟨1⟩, [], ()⟩
  createLibrary _ _ := ⟨.ok ⟨1⟩, [], ()⟩
  destroySetLayout _ _ := ⟨(), [], ()⟩
  destroyPipelineLayout _ _ := ⟨(), [], ()⟩
  destroyModule _ _ := ⟨(), [], ()⟩
  destroyPipeline _ _ := ⟨(), [], ()⟩

/-- A platform on which nothing fails. -/
abbrev obliging : Platform :=
  { DeviceState := Unit
    device := obligingDevice
    ToolState := Unit
    tools := layoutMarker
    StorageState := Unit
    storage := ⟨fun _ _ _ ↦ (.ok (), ())⟩ }

/-- That shaders are rewritten on a device that is set up, with the settings that are usual. -/
structure Serves (s : Instrumentor obliging) : Prop where
  active : s.isInstrumenting = true
  ready : s.resources.isSome = true
  settings : s.settings = {}

theorem exists_run_obliging {plan : PassPlan} (hplan : plan.settings = {})
    (bench : Workbench obliging) {code : Code} (hmagic : hasMagic code = true)
    (id : Bytecode.ShaderId) (bindless : Bool) :
    ∃ words after, plan.run bench code id bindless = (.ok (.instrumented words), after) := by
  obtain ⟨settings, capabilities, slot⟩ := plan
  obtain rfl : settings = {} := hplan
  unfold PassPlan.run
  rw [if_pos hmagic]
  exact ⟨_, _, rfl⟩

theorem serves_runPasses {s : Instrumentor obliging} (h : s.Serves) (resources : DeviceResources)
    {code : Code} (hmagic : hasMagic code = true) (id : Bytecode.ShaderId) (bindless : Bool)
    (location : String) :
    (s.runPasses resources id code bindless location).2.isInstrumenting = true ∧
      (s.runPasses resources id code bindless location).1.isSome = true := by
  have hplan : (s.passPlan resources).settings = {} := h.settings
  obtain ⟨words, after, hran⟩ := exists_run_obliging hplan s.toWorkbench hmagic id bindless
  simp only [runPasses, hran]
  obtain ⟨cache, hkept, -⟩ :=
    exists_keep_eq ({ s with toWorkbench := after } : Instrumentor obliging) id words
  rw [hkept]
  exact ⟨h.active, rfl⟩

/-- Something comes of every shader. -/
theorem serves_instrumentCode {s : Instrumentor obliging} (h : s.Serves) {code : Code}
    (hmagic : hasMagic code = true) (bindless : Bool) (location : String) :
    (s.instrumentCode code bindless location).2.isInstrumenting = true ∧
      (s.instrumentCode code bindless location).1.isSome = true := by
  obtain ⟨resources, hready⟩ := Option.isSome_iff_exists.mp h.ready
  have hkeeps : s.settings.cacheInstrumentedShaders = true := by
    rw [h.settings]
  simp only [instrumentCode, hready, h.active, hmagic, Bool.and_self, if_true,
    identify_of_keeps hkeeps]
  split
  · exact ⟨h.active, rfl⟩
  · exact serves_runPasses h resources hmagic _ bindless location

/-- Every stage that can be instrumented gets an identifier. -/
theorem serves_instrumentStage (site : StageSite) {s : Instrumentor obliging} (h : s.Serves)
    (indexed : ShaderStage × Nat) :
    (instrumentStage site s indexed).2.isInstrumenting = true ∧
      (indexed.1.isInstrumentable = true →
        (instrumentStage site s indexed).1.record.shaderId.isSome = true) := by
  have hselected : s.isSelected indexed.1 = true := by
    unfold isSelected
    rw [h.settings]
    rfl
  unfold ShaderStage.isInstrumentable
  simp only [instrumentStage]
  cases hcode : indexed.1.code with
  | none => exact ⟨h.active, fun hcan ↦ absurd hcan Bool.false_ne_true⟩
  | some code =>
    simp only [hselected, if_true, Option.any_some]
    cases hmagic : hasMagic code with
    | false =>
      have hspared : (s.resources.isSome && s.isInstrumenting && hasMagic code) = false := by
        rw [hmagic, Bool.and_false]
      rw [instrumentCode_of_spared hspared]
      exact ⟨h.active, fun hcan ↦ absurd hcan Bool.false_ne_true⟩
    | true =>
      obtain ⟨hactive, hsome⟩ := serves_instrumentCode h hmagic site.bindless site.location
      obtain ⟨made, hmade⟩ := Option.isSome_iff_exists.mp hsome
      simp only [hmade, placeCode]
      cases hgiven : indexed.1.module.isNull with
      | false => exact ⟨hactive, fun _ ↦ rfl⟩
      | true =>
        cases hinlined : indexed.1.inlined.isSome with
        | true => exact ⟨hactive, fun _ ↦ rfl⟩
        | false => exact ⟨hactive, fun hcan ↦ absurd hcan Bool.false_ne_true⟩

theorem recordsBy_serves : RecordsBy Serves
    fun stage record ↦ stage.isInstrumentable = true → record.shaderId.isSome = true where
  stage site s indexed h := by
    have hsame := SameChoice.rewrites.instrumentStage site s indexed
    obtain ⟨hactive, hid⟩ := serves_instrumentStage site h indexed
    refine ⟨⟨hactive, ?_, hsame.settings.trans h.settings⟩, hid⟩
    rw [hsame.resources]
    exact h.ready
  created s info handle h _ := ⟨h.active, h.ready, h.settings⟩
  refused s info fault location message h hrefused := by cases hrefused
  record s entry h := ⟨h.active, h.ready, h.settings⟩

end Instrumentor

/-! ### Whole calls -/

namespace Session

/-- The state of a device with a number of slots that is set up where nothing fails. -/
def obliged (limit : UInt32) : Session obliging :=
  (start {} () () ()).run [.setUpDevice { maxBoundDescriptorSets := limit }]

theorem serves_obliged {limit slot : UInt32} (h : reservedSlot limit = .ok slot) :
    (obliged limit).state.Serves ∧ (obliged limit).state.reservedSlot = some slot := by
  have hstate : (obliged limit).state = (setUpDevice
      (start {} () () () : Session obliging).state { maxBoundDescriptorSets := limit }).2 := rfl
  rw [hstate]
  unfold setUpDevice
  simp only [h]
  exact ⟨⟨rfl, rfl, rfl⟩, rfl⟩

end Session

/-- That every draft that is made for a pipeline where a slot is the reserved one has a property:
on every platform, in every state that the hooks can reach, and wherever the pipeline stands in a
call. -/
def PipelineInfo.AlwaysPrepared (info : PipelineInfo) (slot : UInt32) (Q : PipelineDraft → Prop) :
    Prop :=
  ∀ (P : Platform) (settings : Settings) (device : P.DeviceState) (tools : P.ToolState)
    (storage : P.StorageState) (hooks : List Hook),
    let s := ((Session.start settings device tools storage : Session P).run hooks).state
    s.reservedSlot = some slot → ∀ (infos : List PipelineInfo) (location : String) draft,
      (info, draft) ∈ infos.zip (s.preparePipelines infos location).1 → Q draft

namespace PipelineInfo

/-- Assumes: a slot that can be reserved. A pipeline that uses the slot has no instrumented stage.
And whatever happens, no instrumented stage of a pipeline belongs to a library that uses the slot,
exactly if the pipeline is not eligible, or is linked from no such library with a stage that can be
instrumented. -/
theorem leavesFree_iff {limit slot : UInt32} (h : reservedSlot limit = .ok slot)
    (info : PipelineInfo) :
    info.AlwaysPrepared slot (fun draft ↦
        ∀ record ∈ draft.records, record.shaderId.isSome = true → info.claims slot = false) ∧
      (info.AlwaysPrepared slot (fun draft ↦ draft.LeavesFree info slot) ↔
        (isEligible info slot = true → info.collides slot = false)) := by
  refine ⟨?_, ?_, ?_⟩
  · intro P settings device tools storage hooks s hslot infos location draft hdraft record hrecord _
    have hall := recordsBy_isInstrumentable.preparePipelines trivial hslot infos location
    rcases (List.forall₂_iff_zip.mp hall).2 hdraft with hnone | ⟨heligible, -⟩
    · rw [hnone] at hrecord
      exact absurd hrecord List.not_mem_nil
    · exact ((isEligible_iff info slot).mp heligible).2.2
  · -- Where nothing fails every stage that can be instrumented is.
    intro halways heligible
    obtain ⟨hserves, hslot⟩ := Session.serves_obliged h
    let draft := (preparePipeline slot "" (Session.obliged limit).state (info, 0)).1
    have hdraft : (info, draft) ∈
        [info].zip ((Session.obliged limit).state.preparePipelines [info] "").1 := by
      simp only [preparePipelines, hslot, hserves.active, if_true]
      exact List.mem_cons_self
    have hfree := halways obliging {} () () () _ hslot [info] "" draft hdraft
    exact hfree.collides_eq_false
      ((recordsBy_serves.preparePipeline slot "" hserves (info, 0)).2 heligible)
  · intro hnone P settings device tools storage hooks s hslot infos location draft hdraft
    have hall := recordsBy_isInstrumentable.preparePipelines trivial hslot infos location
    rcases (List.forall₂_iff_zip.mp hall).2 hdraft with hempty | ⟨heligible, hrecords⟩
    · intro place hplace
      rw [hempty, List.zip_nil_right] at hplace
      exact absurd hplace List.not_mem_nil
    · have hown := ((isEligible_iff info slot).mp heligible).2.2
      exact PipelineDraft.leavesFree_of_collides hown (hnone heligible) hrecords

/-- A pipeline that is linked from a library with a stage and some active slots. -/
def linkedUsing (slots : List UInt32) : PipelineInfo :=
  .graphics (plainInfo [] [⟨⟨30⟩, { plainInfo
    [stageOf ⟨21⟩ [0x07230203, 0x10300, 0, 16, 0, Simulation.arrayAccess]] [] with
      activeSlots := KeySet.ofList slots }⟩])

/-- On a device with eight slots a library may use the first one, but not the last one. -/
theorem leavesFree_iff_eight_slots :
    reservedSlot 8 = .ok 7 ∧
      (linkedUsing [0]).AlwaysPrepared 7 (fun draft ↦ draft.LeavesFree (linkedUsing [0]) 7) ∧
      ¬ (linkedUsing [7]).AlwaysPrepared 7 (fun draft ↦ draft.LeavesFree (linkedUsing [7]) 7) := by
  have hslot : reservedSlot 8 = .ok 7 := rfl
  refine ⟨hslot, (leavesFree_iff hslot _).2.mpr fun _ ↦ by decide, fun hfree ↦ ?_⟩
  have hnone := (leavesFree_iff hslot _).2.mp hfree (by decide)
  exact absurd hnone (by decide)

/-- The stage of a library that uses the reserved slot is instrumented. -/
theorem instrumented_though_claimed :
    let first : Session (Simulation.platform false {}) := .start {} {} [] []
    let s := (first.step (.setUpDevice {})).state
    let drafts := (s.preparePipelines [linkedUsing [7]] "vkCreateGraphicsPipelines").1
    s.reservedSlot = some 7 ∧
      (linkedUsing [7]).libraries.map (fun library ↦ library.info.claims 7) = [true] ∧
      drafts.map (fun draft ↦ draft.records.map fun record ↦ record.shaderId.isSome) =
        [[true]] := by
  decide +kernel

end PipelineInfo

end ShaderGuard
