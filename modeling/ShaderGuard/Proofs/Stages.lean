import ShaderGuard.Proofs.Attempts

/-!
# What becomes of stages

A pipeline's stages are those of its libraries, in the order of the libraries, and then its own
(`PipelineInfo.allStages`). The draft that is prepared for a pipeline has one record for each of
them, and the driver gets one stage in place of each. `StageFate` says how the three belong
together: the record repeats what the application gave, and an identifier in it comes of an attempt
on the code of that stage, whose words the driver gets. `forall₂_preparePipelines` and
`forall₂_prepareShaderObjects` say so of whole calls.
-/

set_option autoImplicit false

namespace ShaderGuard

open Bytecode (ShaderId)

/-- Stages with the library that they belong to. -/
def ownedBy (library : Option PipelineHandle) (stages : List ShaderStage) :
    List (Option PipelineHandle × ShaderStage) :=
  stages.map fun stage ↦ (library, stage)

@[simp] theorem map_snd_ownedBy (library : Option PipelineHandle) (stages : List ShaderStage) :
    (ownedBy library stages).map Prod.snd = stages := by
  unfold ownedBy
  rw [List.map_map]
  exact List.map_id stages

/-- The stages of a pipeline in the order of the records of its draft. -/
def PipelineInfo.allStages (info : PipelineInfo) : List (Option PipelineHandle × ShaderStage) :=
  (info.libraries.flatMap fun library ↦ ownedBy (some library.handle) library.info.stages) ++
    ownedBy none info.stages

theorem PipelineInfo.map_snd_allStages (info : PipelineInfo) :
    info.allStages.map Prod.snd =
      (info.libraries.flatMap fun library ↦ library.info.stages) ++ info.stages := by
  simp [allStages, List.map_flatMap]

theorem PipelineInfo.libraries_withLibraries (info : PipelineInfo)
    {libraries : List GraphicsLibrary} (h : libraries.length = info.libraries.length) :
    (info.withLibraries libraries).libraries = libraries := by
  cases info with
  | graphics info => rfl
  | compute info => exact (List.eq_nil_of_length_eq_zero h).symm
  | rayTracing info => exact (List.eq_nil_of_length_eq_zero h).symm

/-- What a stage looks like that runs some words in place of its own code: it has a module that was
made of them in place of its own, or they stand in it in place of the code that stood there, and it
is unchanged otherwise. `made` says which modules were made of which words. -/
inductive Carries (made : Code → ModuleHandle → Prop) (stage : ShaderStage) (words : Code) :
    ShaderStage → Prop where
  | module (module : ModuleHandle) (hgiven : stage.module.isNull = false)
      (hmade : made words module) : Carries made stage words { stage with module }
  | inline (inlined : InlineCode) (hgiven : stage.module.isNull = true)
      (hinlined : stage.inlined = some inlined) :
      Carries made stage words { stage with inlined := some { inlined with code := words } }

/-- Assumes: a stage with code in it and no module. With other words in it the stage carries
these. -/
theorem Carries.withCode {made : Code → ModuleHandle → Prop} {stage : ShaderStage} (words : Code)
    (hgiven : stage.module.isNull = true) (hinlined : stage.inlined.isSome = true) :
    Carries made stage words (stage.withCode words) := by
  obtain ⟨inlined, hsome⟩ := Option.isSome_iff_exists.mp hinlined
  rw [ShaderStage.withCode_of_inlined hsome]
  exact .inline inlined hgiven hsome

/-- Knowing more modules changes nothing. -/
theorem Carries.imp {made more : Code → ModuleHandle → Prop} {stage forwarded : ShaderStage}
    {words : Code} (h : Carries made stage words forwarded)
    (hmore : ∀ code module, made code module → more code module) :
    Carries more stage words forwarded := by
  cases h with
  | module module hgiven hmade => exact .module module hgiven (hmore _ _ hmade)
  | inline inlined hgiven hinlined => exact .inline inlined hgiven hinlined

variable {P : Platform}

/-- How a stage of the application, its record and the stage that the driver gets belong together
behind some attempts and in the state `t`. The words of an attempt are not used if they belong into
a library that could not be created anew. -/
structure StageFate (made : Instrumentor P → Code → ModuleHandle → Prop) (bindless : Bool)
    (attempts : List Attempt) (t : Instrumentor P) (owned : Option PipelineHandle × ShaderStage)
    (done : StageRecord × ShaderStage) : Prop where
  library : done.1.library = owned.1
  module : done.1.module = owned.2.module
  code : done.1.code = owned.2.code
  inlined : done.1.inlined = true ↔ done.1.shaderId.isSome = true ∧ owned.2.module.isNull = true
  untouched : done.1.shaderId = none → done.2 = owned.2
  instrumented : ∀ id, done.1.shaderId = some id → ∃ attempt ∈ attempts, ∃ words,
    attempt.id = id ∧ owned.2.code = some attempt.code ∧ attempt.bindless = bindless ∧
      attempt.made = some words ∧
      (Carries (made t) owned.2 words done.2 ∨
        done.2 = owned.2 ∧ owned.1.isSome = true ∧ t.isInstrumenting = false)

/-- Of two states, that the second one comes later: whatever was made is still known to be, and
instrumentation is not switched on again. -/
structure Instrumentor.Grows (made : Instrumentor P → Code → ModuleHandle → Prop)
    (s t : Instrumentor P) : Prop where
  made : ∀ code module, made s code module → made t code module
  off : s.isInstrumenting = false → t.isInstrumenting = false

/-- What `made` has to say: it knows the modules that the device has made, and forgets none while
creations are prepared. -/
structure KnowsModules (made : Instrumentor P → Code → ModuleHandle → Prop) : Prop where
  createModule : ∀ (s : Instrumentor P) code module, (s.createModule code).1 = .ok module →
    made (s.createModule code).2 code module
  grows : Rewrites fun (s : Instrumentor P) _ t ↦ s.Grows made t

namespace Instrumentor

/-- Instrumentation is not switched on while creations are prepared. -/
theorem off_of_rewrites :
    Rewrites fun (s : Instrumentor P) _ t ↦
      s.isInstrumenting = false → t.isInstrumenting = false where
  refl _ h := h
  trans hst htu h := htu (hst h)
  record _ _ h := h
  internalError _ _ _ _ := rfl
  createModule _ _ h := h
  createLibrary _ _ h := h
  instrumentCode s code bindless location h := by
    rw [instrumentCode_of_off h]
    exact h

/-- One may know nothing of which modules were made of which words. -/
theorem knowsModules_any : KnowsModules fun (_ : Instrumentor P) _ _ ↦ True where
  createModule _ _ _ _ := trivial
  grows :=
    { refl := fun _ ↦ ⟨fun _ _ h ↦ h, fun h ↦ h⟩
      trans := fun hst htu ↦ ⟨fun _ _ h ↦ h, fun h ↦ htu.off (hst.off h)⟩
      record := fun s entry ↦ ⟨fun _ _ h ↦ h, off_of_rewrites.record s entry⟩
      internalError := fun s location message ↦
        ⟨fun _ _ h ↦ h, off_of_rewrites.internalError s location message⟩
      createModule := fun s code ↦ ⟨fun _ _ h ↦ h, off_of_rewrites.createModule s code⟩
      createLibrary := fun s info ↦ ⟨fun _ _ h ↦ h, off_of_rewrites.createLibrary s info⟩
      instrumentCode := fun s code bindless location ↦
        ⟨fun _ _ h ↦ h, off_of_rewrites.instrumentCode s code bindless location⟩ }

end Instrumentor

namespace StageFate

open Instrumentor

variable {made : Instrumentor P → Code → ModuleHandle → Prop}

theorem mono {bindless : Bool} {attempts more : List Attempt} {s t : Instrumentor P}
    {owned : Option PipelineHandle × ShaderStage} {done : StageRecord × ShaderStage}
    (h : StageFate made bindless attempts s owned done) (hmore : attempts ⊆ more)
    (hgrows : s.Grows made t) : StageFate made bindless more t owned done := by
  refine ⟨h.library, h.module, h.code, h.inlined, h.untouched, fun id hid ↦ ?_⟩
  obtain ⟨attempt, hattempt, words, hsame, hcode, hbindless, hwords, hplace⟩ :=
    h.instrumented id hid
  refine ⟨attempt, hmore hattempt, words, hsame, hcode, hbindless, hwords, ?_⟩
  rcases hplace with hcarries | ⟨hkept, hlibrary, hoff⟩
  · exact Or.inl (hcarries.imp hgrows.made)
  · exact Or.inr ⟨hkept, hlibrary, hgrows.off hoff⟩

/-- A stage without an identifier stays as it is. -/
theorem ofUntouched (site : StageSite) (attempts : List Attempt) (t : Instrumentor P)
    (stage : ShaderStage) :
    StageFate made site.bindless attempts t (site.library, stage)
      ((StageOutcome.untouched site stage).record, (StageOutcome.untouched site stage).stage) where
  library := rfl
  module := rfl
  code := rfl
  inlined := by simp [StageOutcome.untouched]
  untouched _ := rfl
  instrumented id hid := by simp [StageOutcome.untouched] at hid

theorem ofPlaceCode (hmade : KnowsModules made) (site : StageSite) (s : Instrumentor P)
    (stage : ShaderStage) (index : Nat) (words : InstrumentedCode) {attempts : List Attempt}
    {attempt : Attempt} (hmem : attempt ∈ attempts) (hid : attempt.id = words.id)
    (hcode : stage.code = some attempt.code) (hbindless : attempt.bindless = site.bindless)
    (hwords : attempt.made = some words.code) :
    StageFate made site.bindless attempts (placeCode site s stage index words).2
      (site.library, stage)
      ((placeCode site s stage index words).1.record,
        (placeCode site s stage index words).1.stage) := by
  simp only [placeCode]
  by_cases hnull : stage.module.isNull = true
  · rw [if_neg (by simp [hnull])]
    by_cases hinlined : stage.inlined.isSome = true
    · simp only [if_pos hinlined]
      refine ⟨rfl, rfl, rfl, by simp [hnull], fun h ↦ by simp at h, fun id h ↦ ?_⟩
      obtain rfl : words.id = id := by simpa using h
      exact ⟨attempt, hmem, words.code, hid, hcode, hbindless, hwords,
        Or.inl (.withCode words.code hnull hinlined)⟩
    · simp only [if_neg hinlined]
      exact ofUntouched site attempts _ stage
  · have hgiven : stage.module.isNull = false := Bool.eq_false_iff.mpr hnull
    rw [if_pos (by simp [hgiven])]
    split
    · next module hmodule =>
      refine ⟨rfl, rfl, rfl, by simp [StageOutcome.untouched, hgiven], fun h ↦ by simp at h,
        fun id h ↦ ?_⟩
      obtain rfl : words.id = id := by simpa using h
      exact ⟨attempt, hmem, words.code, hid, hcode, hbindless, hwords,
        Or.inl (.module module hgiven (hmade.createModule s words.code module hmodule))⟩
    · exact ofUntouched site attempts _ stage

theorem ofInstrumentStage (hmade : KnowsModules made) (site : StageSite) (s : Instrumentor P)
    (indexed : ShaderStage × Nat) :
    StageFate made site.bindless (stageAttempts site s indexed) (instrumentStage site s indexed).2
      (site.library, indexed.1)
      ((instrumentStage site s indexed).1.record, (instrumentStage site s indexed).1.stage) := by
  simp only [instrumentStage, stageAttempts]
  cases hcode : indexed.1.code with
  | none => exact ofUntouched site _ s indexed.1
  | some code =>
    by_cases hselected : s.isSelected indexed.1 = true
    · simp only [hselected, if_true]
      cases hwords : (s.instrumentCode code site.bindless site.location).1 with
      | none => exact ofUntouched site _ _ indexed.1
      | some words =>
        rw [codeAttempts_of_made hwords]
        exact ofPlaceCode hmade site _ indexed.1 indexed.2 words List.mem_cons_self rfl hcode rfl
          rfl
    · simp only [if_neg hselected]
      exact ofUntouched site _ s indexed.1

end StageFate

/-! ### Whole calls -/

namespace Instrumentor

variable {made : Instrumentor P → Code → ModuleHandle → Prop}

/-- How the stages of a pipeline, their records and the stages that the driver gets belong
together, one by one. -/
def StagesFate (made : Instrumentor P → Code → ModuleHandle → Prop) (bindless : Bool)
    (attempts : List Attempt) (t : Instrumentor P)
    (owned : List (Option PipelineHandle × ShaderStage)) (records : List StageRecord)
    (forwarded : List ShaderStage) : Prop :=
  ∃ done : List (StageRecord × ShaderStage), records = done.map Prod.fst ∧
    forwarded = done.map Prod.snd ∧ List.Forall₂ (StageFate made bindless attempts t) owned done

namespace StagesFate

variable {bindless : Bool} {attempts more : List Attempt} {s t : Instrumentor P}
  {owned first second : List (Option PipelineHandle × ShaderStage)}
  {records records' : List StageRecord} {forwarded forwarded' : List ShaderStage}

theorem nil : StagesFate made bindless attempts t [] [] [] := ⟨[], rfl, rfl, List.Forall₂.nil⟩

theorem mono (h : StagesFate made bindless attempts s owned records forwarded)
    (hmore : attempts ⊆ more) (hgrows : s.Grows made t) :
    StagesFate made bindless more t owned records forwarded := by
  obtain ⟨done, hrecords, hforwarded, hfate⟩ := h
  exact ⟨done, hrecords, hforwarded, hfate.imp fun _ _ hone ↦ hone.mono hmore hgrows⟩

theorem append (h : StagesFate made bindless attempts t first records forwarded)
    (h' : StagesFate made bindless attempts t second records' forwarded') :
    StagesFate made bindless attempts t (first ++ second) (records ++ records')
      (forwarded ++ forwarded') := by
  obtain ⟨done, rfl, rfl, hfate⟩ := h
  obtain ⟨done', rfl, rfl, hfate'⟩ := h'
  exact ⟨done ++ done', by simp, by simp, List.rel_append hfate hfate'⟩

/-- A library that could not be created anew is linked as the application gave it. -/
theorem kept (h : StagesFate made bindless attempts t owned records forwarded)
    (hlibrary : ∀ stage ∈ owned, stage.1.isSome = true) (hoff : t.isInstrumenting = false) :
    StagesFate made bindless attempts t owned records (owned.map Prod.snd) := by
  obtain ⟨done, rfl, -, hfate⟩ := h
  induction hfate with
  | nil => exact nil
  | @cons stage one owned done hone _ ih =>
    have hhead : StagesFate made bindless attempts t [stage] [one.1] [stage.2] := by
      refine ⟨[(one.1, stage.2)], rfl, rfl, List.Forall₂.cons ?_ List.Forall₂.nil⟩
      refine ⟨hone.library, hone.module, hone.code, hone.inlined, fun _ ↦ rfl, fun id hid ↦ ?_⟩
      obtain ⟨attempt, hattempt, words, hsame, hcode, hbindless, hwords, _⟩ :=
        hone.instrumented id hid
      exact ⟨attempt, hattempt, words, hsame, hcode, hbindless, hwords,
        Or.inr ⟨rfl, hlibrary stage List.mem_cons_self, hoff⟩⟩
    exact hhead.append (ih fun other hother ↦ hlibrary other (List.mem_cons_of_mem _ hother))

end StagesFate

theorem Grows.refl (hmade : KnowsModules made) (s : Instrumentor P) : s.Grows made s :=
  hmade.grows.refl s

theorem Grows.trans {s t u : Instrumentor P} (hst : s.Grows made t) (htu : t.Grows made u) :
    s.Grows made u :=
  ⟨fun code module h ↦ htu.made _ _ (hst.made code module h), fun h ↦ htu.off (hst.off h)⟩

theorem stagesFate_instrumentStages (hmade : KnowsModules made) (site : StageSite)
    (s : Instrumentor P) (stages : List ShaderStage) :
    StagesFate made site.bindless (stagesAttempts site s stages)
      (instrumentStages site s stages).2 (ownedBy site.library stages)
      ((instrumentStages site s stages).1.map StageOutcome.record)
      ((instrumentStages site s stages).1.map StageOutcome.stage) := by
  have hfate := forall₂_thread
    (fun attempts t (indexed : ShaderStage × Nat) (outcome : StageOutcome) ↦
      StageFate made site.bindless attempts t (site.library, indexed.1)
        (outcome.record, outcome.stage))
    (Grows.refl hmade) Grows.trans (hmade.grows.instrumentStage site)
    (fun hmore hgrows hone ↦ hone.mono hmore hgrows)
    (StageFate.ofInstrumentStage hmade site) s stages.zipIdx
  refine ⟨(instrumentStages site s stages).1.map fun outcome ↦ (outcome.record, outcome.stage),
    by simp, by simp, ?_⟩
  unfold ownedBy
  rw [List.forall₂_map_right_iff, List.forall₂_map_left_iff]
  exact forall₂_of_zipIdx hfate

/-- What becomes of the stages of a library. -/
def LibraryFate (made : Instrumentor P → Code → ModuleHandle → Prop) (bindless : Bool)
    (attempts : List Attempt) (t : Instrumentor P) (library : GraphicsLibrary)
    (outcome : LibraryOutcome) : Prop :=
  StagesFate made bindless attempts t (ownedBy (some library.handle) library.info.stages)
    outcome.records outcome.library.info.stages

theorem libraryFate_relinkLibrary (hmade : KnowsModules made) (site : StageSite)
    (link : LinkState P) (library : GraphicsLibrary) :
    LibraryFate made site.bindless (libraryAttempts site link library)
      (relinkLibrary site link library).2.state library (relinkLibrary site link library).1 := by
  simp only [LibraryFate, relinkLibrary, libraryAttempts]
  by_cases hempty : library.info.stages.isEmpty = true
  · rw [if_pos hempty, if_pos hempty, List.isEmpty_iff.mp hempty]
    exact StagesFate.nil
  · rw [if_neg hempty, if_neg hempty]
    have hstages := stagesFate_instrumentStages hmade
      { site with library := some library.handle } link.state library.info.stages
    split
    · exact hstages.mono (List.Subset.refl _) (hmade.grows.createLibrary _ _)
    · have hgrows := (hmade.grows.createLibrary
        (instrumentStages { site with library := some library.handle } link.state
          library.info.stages).2 { library.info with
            stages := (instrumentStages { site with library := some library.handle } link.state
              library.info.stages).1.map StageOutcome.stage }).trans
        (hmade.grows.internalError _ site.location
          "Unable to re-create pipeline library with instrumented shaders.")
      have hkept := (hstages.mono (List.Subset.refl _) hgrows).kept
        (by simp [ownedBy]) (isInstrumenting_internalError _ _ _)
      rwa [map_snd_ownedBy] at hkept

theorem stagesFate_of_libraries {bindless : Bool} {attempts : List Attempt} {t : Instrumentor P}
    {libraries : List GraphicsLibrary} {outcomes : List LibraryOutcome}
    (h : List.Forall₂ (LibraryFate made bindless attempts t) libraries outcomes) :
    StagesFate made bindless attempts t
      (libraries.flatMap fun library ↦ ownedBy (some library.handle) library.info.stages)
      (outcomes.flatMap LibraryOutcome.records)
      (outcomes.flatMap fun outcome ↦ outcome.library.info.stages) := by
  induction h with
  | nil => exact StagesFate.nil
  | cons hhead _ ih =>
    simp only [List.flatMap_cons]
    exact StagesFate.append hhead ih

/-- What becomes of a pipeline: it stays as it is, or its draft records all its stages. -/
def DraftFate (made : Instrumentor P → Code → ModuleHandle → Prop) (attempts : List Attempt)
    (t : Instrumentor P) (info : PipelineInfo) (draft : PipelineDraft) : Prop :=
  draft = { info } ∨ StagesFate made info.isBindless attempts t info.allStages draft.records
    (draft.info.allStages.map Prod.snd)

/-- What becomes of the stages of a pipeline that is to be instrumented. -/
theorem stagesFate_instrumentPipeline (hmade : KnowsModules made) (slot : UInt32)
    (location : String) (s : Instrumentor P) (indexed : PipelineInfo × Nat)
    (heligible : isEligible indexed.1 slot = true) :
    StagesFate made indexed.1.isBindless (pipelineAttempts slot location s indexed)
      (preparePipeline slot location s indexed).2 indexed.1.allStages
      (preparePipeline slot location s indexed).1.records
      ((preparePipeline slot location s indexed).1.info.allStages.map Prod.snd) := by
  simp only [preparePipeline, pipelineAttempts, if_pos heligible, instrumentPipeline]
  let site : StageSite := ⟨none, indexed.1.isBindless, elementOf location indexed.2⟩
  let linked := thread (relinkLibrary site) ⟨{}, s⟩ indexed.1.libraries
  let staged := instrumentStages site linked.2.state indexed.1.stages
  have hlinked := forall₂_thread
    (fun attempts (link : LinkState P) library outcome ↦
      LibraryFate made site.bindless attempts link.state library outcome)
    (fun link : LinkState P ↦ Grows.refl hmade link.state) Grows.trans
    (hmade.grows.relinkLibrary site) (fun hmore hgrows hone ↦ hone.mono hmore hgrows)
    (libraryFate_relinkLibrary hmade site) ⟨{}, s⟩ indexed.1.libraries
  have hstaged := stagesFate_instrumentStages hmade site linked.2.state indexed.1.stages
  have hlinks := (stagesFate_of_libraries hlinked).mono
    (List.subset_append_left _ (stagesAttempts site linked.2.state indexed.1.stages))
    (hmade.grows.instrumentStages site linked.2.state indexed.1.stages)
  have hown := hstaged.mono (List.subset_append_right
    (librariesAttempts site ⟨{}, s⟩ indexed.1.libraries) _) (Grows.refl hmade _)
  have hforwarded := PipelineInfo.map_snd_allStages
    ((indexed.1.withLibraries (linked.1.map LibraryOutcome.library)).withStages
      (staged.1.map StageOutcome.stage))
  rw [PipelineInfo.libraries_withStages,
    PipelineInfo.libraries_withLibraries _ (by simp [linked]),
    PipelineInfo.stages_withStages _ _ (by simp [staged, instrumentStages]),
    List.flatMap_map] at hforwarded
  rw [hforwarded]
  exact (hlinks.append hown).mono (List.Subset.refl _) (hmade.grows.record staged.2 _)

theorem draftFate_preparePipeline (hmade : KnowsModules made) (slot : UInt32) (location : String)
    (s : Instrumentor P) (indexed : PipelineInfo × Nat) :
    DraftFate made (pipelineAttempts slot location s indexed)
      (preparePipeline slot location s indexed).2 indexed.1
      (preparePipeline slot location s indexed).1 := by
  by_cases heligible : isEligible indexed.1 slot = true
  · exact Or.inr (stagesFate_instrumentPipeline hmade slot location s indexed heligible)
  · left
    rw [preparePipeline, if_neg heligible]

/-- Each draft that is prepared for a call says what became of its pipeline. -/
theorem forall₂_preparePipelines (hmade : KnowsModules made) (s : Instrumentor P)
    (infos : List PipelineInfo) (location : String) :
    List.Forall₂
      (DraftFate made (s.pipelinesAttempts infos location) (s.preparePipelines infos location).2)
      infos (s.preparePipelines infos location).1 := by
  rcases s.preparePipelines_cases infos location with
    ⟨hkept, hnone, -⟩ | ⟨slot, hprepared, hattempts, -⟩
  · rw [hkept, hnone, List.forall₂_map_right_iff, List.forall₂_same]
    exact fun _ _ ↦ Or.inl rfl
  · rw [hprepared, hattempts]
    exact forall₂_of_zipIdx (forall₂_thread
      (fun attempts t (indexed : PipelineInfo × Nat) draft ↦
        DraftFate made attempts t indexed.1 draft)
      (Grows.refl hmade) Grows.trans (hmade.grows.preparePipeline slot location)
      (fun hmore hgrows hone ↦ hone.imp id fun hfate ↦ hfate.mono hmore hgrows)
      (draftFate_preparePipeline hmade slot location) s infos.zipIdx)

/-- What becomes of a shader object: instrumented words come of an attempt on its code, and stand in
its place. -/
def ObjectFate (attempts : List Attempt) (info : ShaderObjectInfo) (draft : ShaderObjectDraft) :
    Prop :=
  ∀ words, draft.made = some words → draft.info.code = words.code ∧
    ⟨words.id, info.code, info.isBindless, some words.code⟩ ∈ attempts

theorem ObjectFate.mono {attempts more : List Attempt} {info : ShaderObjectInfo}
    {draft : ShaderObjectDraft} (h : ObjectFate attempts info draft) (hmore : attempts ⊆ more) :
    ObjectFate more info draft :=
  fun words hwords ↦ ⟨(h words hwords).1, hmore (h words hwords).2⟩

theorem objectFate_prepareShaderObject (reservation : Reservation) (call : String)
    (s : Instrumentor P) (indexed : ShaderObjectInfo × Nat) :
    ObjectFate (objectAttempts reservation call s indexed) indexed.1
      (prepareShaderObject reservation call s indexed).1 := by
  intro words hwords
  simp only [prepareShaderObject, objectAttempts] at hwords ⊢
  cases hpatch : reservation.patch (indexed.1.setLayouts.map SetLayout.handle) with
  | conflict count =>
    simp only [hpatch] at hwords
    cases hwords
  | patched layouts =>
    simp only [hpatch, instrumentObject] at hwords ⊢
    by_cases hskipped : (s.settings.selectInstrumentedShaders &&
        !(indexed.1.patched reservation).selected) = true
    · rw [if_pos hskipped] at hwords
      cases hwords
    · have hgiven : ¬ (s.settings.selectInstrumentedShaders && !indexed.1.selected) = true :=
        hskipped
      rw [if_neg hskipped] at hwords ⊢
      rw [if_neg hgiven]
      cases hcode : (s.instrumentCode indexed.1.code indexed.1.isBindless
          (elementOf call indexed.2)).1 with
      | none =>
        have hcode' : (s.instrumentCode (indexed.1.patched reservation).code indexed.1.isBindless
          (elementOf call indexed.2)).1 = none := hcode
        simp only [hcode'] at hwords
        cases hwords
      | some found =>
        have hcode' : (s.instrumentCode (indexed.1.patched reservation).code indexed.1.isBindless
          (elementOf call indexed.2)).1 = some found := hcode
        simp only [hcode'] at hwords ⊢
        obtain rfl : found = words := by simpa using hwords
        rw [codeAttempts_of_made hcode]
        exact ⟨rfl, List.mem_cons_self⟩

/-- Each draft that is prepared for a call says what became of its shader object. -/
theorem forall₂_prepareShaderObjects (s : Instrumentor P) (infos : List ShaderObjectInfo)
    (call : String) :
    List.Forall₂ (ObjectFate (s.objectsAttempts infos call)) infos
      (s.prepareShaderObjects infos call).1 := by
  rcases s.prepareShaderObjects_cases infos call with
    ⟨hkept, hnone⟩ | ⟨reservation, hprepared, hattempts⟩
  · rw [hkept, hnone, List.forall₂_map_right_iff, List.forall₂_same]
    intro info _ words hwords
    cases hwords
  · rw [hprepared, hattempts]
    exact forall₂_of_zipIdx (forall₂_thread
      (fun attempts _ (indexed : ShaderObjectInfo × Nat) draft ↦
        ObjectFate attempts indexed.1 draft)
      (fun _ ↦ trivial) (fun _ _ ↦ trivial) (fun _ _ ↦ trivial)
      (fun hmore _ hone ↦ hone.mono hmore)
      (objectFate_prepareShaderObject reservation call) s infos.zipIdx)

end Instrumentor

end ShaderGuard
