import ShaderGuard.Proofs.Stages
import ShaderGuard.Proofs.ToolCalls

/-!
# What is offered to instrumentation

Code is sought in a stage if the stage has code that a shader begins with, and the application has
asked for it or need not ask (`Instrumentor.sought`). Before pipelines are created, the code that is
sought in their stages is offered to instrumentation piece by piece, in the order of the stages,
until instrumentation is switched off: the attempts that are made are a first part of what is
sought, and all of it unless something went wrong on the way (`Instrumentor.Offers`). For a pipeline
that may be instrumented these are the stages of its libraries and its own
(`offers_preparePipeline`).

What is done in a call for one pipeline does not depend on those behind it, and on those before it
by the state alone that they have left (`preparePipelines_append`).
-/

set_option autoImplicit false

namespace ShaderGuard

open Bytecode (hasMagic)

/-! ### Which pipelines take part -/

/-- Whether a layout has a set at a slot, or shaders use the set there. -/
def claimsSlot (layout : Option PipelineLayout) (activeSlots : SlotSet) (slot : UInt32) : Bool :=
  activeSlots.contains slot || layout.any fun layout ↦ slot.toNat < layout.setLayouts.length

namespace PipelineInfo

/-- Whether the layout or the shaders that a pipeline itself declares use a slot. -/
def claims (info : PipelineInfo) (slot : UInt32) : Bool :=
  claimsSlot info.layout info.activeSlots slot

theorem totalStageCount_eq (info : PipelineInfo) :
    info.totalStageCount = info.allStages.length := by
  have hfold (libraries : List GraphicsLibrary) (count : Nat) :
      libraries.foldl (fun count library ↦ count + library.info.stages.length) count =
        count + (libraries.flatMap fun library ↦ library.info.stages).length := by
    induction libraries generalizing count with
    | nil => rfl
    | cons library rest ih =>
      rw [List.foldl_cons, ih, List.flatMap_cons, List.length_append, Nat.add_assoc]
  have hall := congrArg List.length info.map_snd_allStages
  rw [List.length_map, List.length_append] at hall
  unfold totalStageCount
  rw [hfold, hall, Nat.add_comm]

end PipelineInfo

namespace Instrumentor

variable {P : Platform}

/-- A pipeline is eligible if it or its libraries have stages, it is no library itself, and it does
not use the slot. -/
theorem isEligible_iff (info : PipelineInfo) (slot : UInt32) :
    isEligible info slot = true ↔ info.allStages ≠ [] ∧
      info.flags.contains CreationFlags.library = false ∧ info.claims slot = false := by
  unfold isEligible PipelineInfo.claims claimsSlot
  rw [info.totalStageCount_eq]
  simp [and_assoc]

/-- Whether a pipeline is looked through for stages: shaders are rewritten on a device that is set
up, and the pipeline is no library and leaves the reserved slot free. -/
def looksThrough (s : Instrumentor P) (info : PipelineInfo) : Bool :=
  s.isInstrumenting && !info.flags.contains CreationFlags.library &&
    s.reservedSlot.any fun slot ↦ !info.claims slot

/-! ### What is sought -/

/-- Two states in which the same stages are chosen. -/
structure SameChoice (s t : Instrumentor P) : Prop where
  settings : t.settings = s.settings
  resources : t.resources = s.resources
  selectedModules : t.selectedModules = s.selectedModules

namespace SameChoice

theorem refl (s : Instrumentor P) : SameChoice s s := ⟨rfl, rfl, rfl⟩

theorem trans {s t u : Instrumentor P} (hst : SameChoice s t) (htu : SameChoice t u) :
    SameChoice s u :=
  ⟨htu.settings.trans hst.settings, htu.resources.trans hst.resources,
    htu.selectedModules.trans hst.selectedModules⟩

theorem instrumentCode (s : Instrumentor P) (code : Code) (bindless : Bool) (location : String) :
    SameChoice s (s.instrumentCode code bindless location).2 := by
  obtain ⟨bench, subsystem, cache, nextId, hafter, hsettings⟩ :=
    exists_instrumentCode_eq s code bindless location
  rw [hafter]
  exact ⟨hsettings, rfl, rfl⟩

/-- The hooks before creations choose the same stages throughout. -/
theorem rewrites : Rewrites (P := P) fun s _ t ↦ SameChoice s t where
  refl := refl
  trans := trans
  record _ _ := ⟨rfl, rfl, rfl⟩
  internalError _ _ _ := ⟨rfl, rfl, rfl⟩
  createModule _ _ := ⟨rfl, rfl, rfl⟩
  createLibrary _ _ := ⟨rfl, rfl, rfl⟩
  instrumentCode := SameChoice.instrumentCode

end SameChoice

/-- The code of a stage that is to be instrumented, if there is any. -/
def candidate? (s : Instrumentor P) (stage : ShaderStage) : Option Code :=
  if s.resources.isSome && s.isSelected stage then stage.code.filter hasMagic else none

/-- The code that is sought in some stages, with whether the layout they are used with has a
bindless set. -/
def sought (s : Instrumentor P) (bindless : Bool) (stages : List ShaderStage) :
    List (Code × Bool) :=
  (stages.filterMap s.candidate?).map fun code ↦ (code, bindless)

theorem sought_singleton (s : Instrumentor P) (bindless : Bool) (stage : ShaderStage) :
    s.sought bindless [stage] = ((s.candidate? stage).map fun code ↦ (code, bindless)).toList := by
  unfold sought
  cases h : s.candidate? stage <;> simp [h]

theorem sought_append (s : Instrumentor P) (bindless : Bool) (first second : List ShaderStage) :
    s.sought bindless (first ++ second) = s.sought bindless first ++ s.sought bindless second := by
  unfold sought
  rw [List.filterMap_append, List.map_append]

theorem sought_flatMap {α : Type} (s : Instrumentor P) (bindless : Bool) (xs : List α)
    (stages : α → List ShaderStage) :
    s.sought bindless (xs.flatMap stages) = xs.flatMap fun x ↦ s.sought bindless (stages x) := by
  induction xs with
  | nil => rfl
  | cons x rest ih => rw [List.flatMap_cons, sought_append, ih, List.flatMap_cons]

theorem SameChoice.isSelected_eq {s t : Instrumentor P} (h : SameChoice s t) (stage : ShaderStage) :
    t.isSelected stage = s.isSelected stage := by
  unfold isSelected
  rw [h.settings, h.selectedModules]

theorem SameChoice.candidate?_eq {s t : Instrumentor P} (h : SameChoice s t) :
    t.candidate? = s.candidate? := by
  funext stage
  unfold candidate?
  rw [h.resources, h.isSelected_eq]

theorem SameChoice.sought_eq {s t : Instrumentor P} (h : SameChoice s t) (bindless : Bool)
    (stages : List ShaderStage) : t.sought bindless stages = s.sought bindless stages := by
  unfold sought
  rw [h.candidate?_eq]

/-! ### What is offered -/

/-- What an attempt is made on. -/
def offer (attempt : Attempt) : Code × Bool := (attempt.code, attempt.bindless)

/-- That some attempts are made between two states, in order, on what is sought, for as long as
instrumentation is not switched off. -/
structure Offers (s : Instrumentor P) (sought : List (Code × Bool)) (attempts : List Attempt)
    (t : Instrumentor P) : Prop where
  same : SameChoice s t
  ordered : attempts.map offer <+: sought
  complete : t.isInstrumenting = true → attempts.map offer = sought
  stopped : s.isInstrumenting = false → attempts = [] ∧ t.isInstrumenting = false

namespace Offers

variable {s t u : Instrumentor P}

/-- Where nothing is sought nothing is attempted. -/
theorem quiet (hsame : SameChoice s t)
    (hoff : s.isInstrumenting = false → t.isInstrumenting = false) : Offers s [] [] t :=
  ⟨hsame, List.prefix_rfl, fun _ ↦ rfl, fun h ↦ ⟨rfl, hoff h⟩⟩

theorem trans {first second : List (Code × Bool)} {attempts more : List Attempt}
    (hst : Offers s first attempts t) (htu : Offers t second more u) :
    Offers s (first ++ second) (attempts ++ more) u where
  same := hst.same.trans htu.same
  ordered := by
    rw [List.map_append]
    -- Instrumentation may have been switched off in between; then nothing is attempted any more.
    cases hbetween : t.isInstrumenting with
    | true =>
      rw [hst.complete hbetween]
      exact (List.prefix_append_right_inj first).mpr htu.ordered
    | false =>
      rw [(htu.stopped hbetween).1, List.map_nil, List.append_nil]
      exact hst.ordered.trans (List.prefix_append first second)
  complete hactive := by
    have hbetween : t.isInstrumenting = true := by
      by_contra hoff
      have hlast := (htu.stopped (Bool.eq_false_iff.mpr hoff)).2
      rw [hactive] at hlast
      cases hlast
    rw [List.map_append, hst.complete hbetween, htu.complete hactive]
  stopped hoff := by
    obtain ⟨hnone, hbetween⟩ := hst.stopped hoff
    obtain ⟨hnomore, hlast⟩ := htu.stopped hbetween
    exact ⟨by rw [hnone, hnomore, List.append_nil], hlast⟩

/-- What is done behind the attempts, without another one, changes nothing about them. -/
theorem andThen {sought : List (Code × Bool)} {attempts : List Attempt}
    (hst : Offers s sought attempts t) (htu : Offers t [] [] u) : Offers s sought attempts u := by
  simpa using hst.trans htu

/-- Assumes: a step that offers what is sought in its element, and that what is sought is the same
in states that choose the same stages. Working through a list offers what is sought in all of its
elements. `view` is the state in which the step works. -/
theorem thread {σ α β : Type} (view : σ → Instrumentor P)
    (seek : Instrumentor P → α → List (Code × Bool))
    (hseek : ∀ {s t : Instrumentor P}, SameChoice s t → seek t = seek s)
    {note : σ → α → List Attempt} {step : σ → α → β × σ}
    (hstep : ∀ s a, Offers (view s) (seek (view s) a) (note s a) (view (step s a).2)) (s : σ)
    (xs : List α) :
    Offers (view s) (xs.flatMap (seek (view s))) (threadNotes note step s xs)
      (view (thread step s xs).2) := by
  induction xs generalizing s with
  | nil => exact quiet (.refl _) id
  | cons a rest ih =>
    have hnext := ih (step s a).2
    rw [hseek (hstep s a).same] at hnext
    exact (hstep s a).trans hnext

end Offers

/-- What does not concern code offers nothing. -/
theorem Offers.of_rewrites {s t : Instrumentor P}
    (h : ∀ {R : Instrumentor P → List Attempt → Instrumentor P → Prop}, Rewrites R → R s [] t) :
    Offers s [] [] t :=
  .quiet (h SameChoice.rewrites) (h off_of_rewrites)

/-- While shaders are rewritten, an attempt is made on what is sought in a stage. -/
theorem map_offer_stageAttempts (site : StageSite) (s : Instrumentor P)
    (indexed : ShaderStage × Nat) :
    (stageAttempts site s indexed).map offer =
      if s.isInstrumenting then s.sought site.bindless [indexed.1] else [] := by
  rw [sought_singleton]
  unfold stageAttempts candidate? codeAttempts
  cases indexed.1.code with
  | none => simp
  | some code =>
    cases s.isInstrumenting with
    | false => simp
    | true =>
      cases hmagic : hasMagic code <;> cases s.resources.isSome <;> cases s.isSelected indexed.1 <;>
        simp [hmagic, offer, Option.filter]

/-- What is attempted on all that is sought while shaders are rewritten, and else on nothing, is
offered. -/
theorem Offers.of_map_offer {s t : Instrumentor P} {sought : List (Code × Bool)}
    {attempts : List Attempt} (hsame : SameChoice s t)
    (hoff : s.isInstrumenting = false → t.isInstrumenting = false)
    (hoffered : attempts.map offer = if s.isInstrumenting then sought else []) :
    Offers s sought attempts t := by
  cases hactive : s.isInstrumenting with
  | true =>
    rw [hactive, if_pos rfl] at hoffered
    exact ⟨hsame, hoffered ▸ List.prefix_rfl, fun _ ↦ hoffered,
      fun hnot ↦ absurd (hactive.symm.trans hnot) Bool.noConfusion⟩
  | false =>
    rw [hactive, if_neg Bool.false_ne_true, List.map_eq_nil_iff] at hoffered
    rw [hoffered]
    exact ⟨hsame, List.nil_prefix,
      fun hlast ↦ absurd ((hoff hactive).symm.trans hlast) Bool.noConfusion,
      fun _ ↦ ⟨rfl, hoff hactive⟩⟩

theorem offers_instrumentStage (site : StageSite) (s : Instrumentor P)
    (indexed : ShaderStage × Nat) :
    Offers s (s.sought site.bindless [indexed.1]) (stageAttempts site s indexed)
      (instrumentStage site s indexed).2 :=
  .of_map_offer (SameChoice.rewrites.instrumentStage site s indexed)
    (off_of_rewrites.instrumentStage site s indexed) (map_offer_stageAttempts site s indexed)

theorem offers_instrumentStages (site : StageSite) (s : Instrumentor P)
    (stages : List ShaderStage) :
    Offers s (s.sought site.bindless stages) (stagesAttempts site s stages)
      (instrumentStages site s stages).2 := by
  have hall := Offers.thread id
    (fun s (indexed : ShaderStage × Nat) ↦ s.sought site.bindless [indexed.1])
    (fun hsame ↦ funext fun indexed ↦ hsame.sought_eq site.bindless [indexed.1])
    (offers_instrumentStage site) s stages.zipIdx
  have hsought : (stages.zipIdx.flatMap fun indexed ↦ s.sought site.bindless [indexed.1]) =
      s.sought site.bindless stages := by
    rw [← sought_flatMap s site.bindless stages.zipIdx fun indexed ↦ [indexed.1],
      ← List.map_eq_flatMap, List.zipIdx_map_fst]
  rw [← hsought]
  exact hall

theorem offers_relinkLibrary (site : StageSite) (link : LinkState P) (library : GraphicsLibrary) :
    Offers link.state (link.state.sought site.bindless library.info.stages)
      (libraryAttempts site link library) (relinkLibrary site link library).2.state := by
  unfold libraryAttempts relinkLibrary
  by_cases hempty : library.info.stages.isEmpty = true
  · rw [if_pos hempty, if_pos hempty, List.isEmpty_iff.mp hempty]
    exact .quiet (.refl _) id
  · simp only [if_neg hempty]
    have hstages := offers_instrumentStages { site with library := some library.handle } link.state
      library.info.stages
    have hcreated := hstages.andThen (.of_rewrites fun h ↦ h.createLibrary _ { library.info with
      stages := (instrumentStages { site with library := some library.handle } link.state
        library.info.stages).1.map StageOutcome.stage })
    split
    · exact hcreated
    · exact hcreated.andThen (.of_rewrites fun h ↦ h.internalError _ _ _)

/-- A pipeline that is no library and leaves the slot free offers the stages of its libraries and
its own. -/
theorem offers_preparePipeline (slot : UInt32) (location : String) (s : Instrumentor P)
    (indexed : PipelineInfo × Nat)
    (hlibrary : indexed.1.flags.contains CreationFlags.library = false)
    (hfree : indexed.1.claims slot = false) :
    Offers s (s.sought indexed.1.isBindless (indexed.1.allStages.map Prod.snd))
      (pipelineAttempts slot location s indexed) (preparePipeline slot location s indexed).2 := by
  unfold pipelineAttempts preparePipeline
  by_cases heligible : isEligible indexed.1 slot = true
  · simp only [if_pos heligible, instrumentPipeline]
    rw [PipelineInfo.map_snd_allStages, sought_append, sought_flatMap]
    have hlibraries := Offers.thread LinkState.state
      (fun s (library : GraphicsLibrary) ↦ s.sought indexed.1.isBindless library.info.stages)
      (fun hsame ↦ funext fun library ↦ hsame.sought_eq indexed.1.isBindless library.info.stages)
      (offers_relinkLibrary ⟨none, indexed.1.isBindless, elementOf location indexed.2⟩) ⟨{}, s⟩
      indexed.1.libraries
    have hown := offers_instrumentStages
      ⟨none, indexed.1.isBindless, elementOf location indexed.2⟩
      (thread (relinkLibrary ⟨none, indexed.1.isBindless, elementOf location indexed.2⟩) ⟨{}, s⟩
        indexed.1.libraries).2.state indexed.1.stages
    rw [hlibraries.same.sought_eq] at hown
    exact (hlibraries.trans hown).andThen (.of_rewrites fun h ↦ h.record _ _)
  · have hnone : indexed.1.allStages = [] := by
      by_contra hsome
      exact heligible ((isEligible_iff indexed.1 slot).mpr ⟨hsome, hlibrary, hfree⟩)
    rw [if_neg heligible, if_neg heligible, hnone]
    exact .quiet (.refl s) id

/-! ### Whole calls -/

/-- The code that is sought in the stages of a pipeline of a call, those of its libraries first. A
pipeline that is not eligible is passed over. -/
def soughtPipeline (slot : UInt32) (s : Instrumentor P) (info : PipelineInfo) :
    List (Code × Bool) :=
  if isEligible info slot then s.sought info.isBindless (info.allStages.map Prod.snd) else []

/-- Whether code is sought in a shader object: it has no set layout at the reserved slot, and the
application has asked for it or need not ask. -/
def seeksObject (reservation : Reservation) (s : Instrumentor P) (info : ShaderObjectInfo) : Bool :=
  info.setLayouts.length ≤ reservation.slot.toNat &&
    (!s.settings.selectInstrumentedShaders || info.selected)

/-- The code that is sought in a shader object of a call. -/
def soughtObject (reservation : Reservation) (s : Instrumentor P) (info : ShaderObjectInfo) :
    List (Code × Bool) :=
  if s.resources.isSome && s.seeksObject reservation info && hasMagic info.code then
    [(info.code, info.isBindless)]
  else []

theorem SameChoice.soughtPipeline_eq {s t : Instrumentor P} (h : SameChoice s t) (slot : UInt32)
    (info : PipelineInfo) : soughtPipeline slot t info = soughtPipeline slot s info := by
  unfold soughtPipeline
  rw [h.sought_eq]

theorem SameChoice.soughtObject_eq {s t : Instrumentor P} (h : SameChoice s t)
    (reservation : Reservation) (info : ShaderObjectInfo) :
    soughtObject reservation t info = soughtObject reservation s info := by
  unfold soughtObject seeksObject
  rw [h.settings, h.resources]

/-- The code that is sought in the pipelines of a call. -/
def soughtInPipelines (s : Instrumentor P) (infos : List PipelineInfo) : List (Code × Bool) :=
  match s.reservedSlot with
  | none => []
  | some slot => infos.flatMap (soughtPipeline slot s)

/-- The code that is sought in the shader objects of a call. -/
def soughtInObjects (s : Instrumentor P) (infos : List ShaderObjectInfo) : List (Code × Bool) :=
  match s.reservation with
  | none => []
  | some reservation => infos.flatMap (soughtObject reservation s)

theorem flatMap_zipIdx {α β : Type} (xs : List α) (f : α → List β) :
    (xs.zipIdx.flatMap fun indexed ↦ f indexed.1) = xs.flatMap f := by
  rw [← List.flatMap_map, List.zipIdx_map_fst]

/-- Where shaders are not being rewritten nothing is attempted, whatever is sought. -/
theorem Offers.off {s : Instrumentor P} (hoff : s.isInstrumenting = false)
    (sought : List (Code × Bool)) : Offers s sought [] s :=
  .of_map_offer (.refl s) id (by rw [hoff]; rfl)

theorem offers_preparePipeline_of_sought (slot : UInt32) (location : String) (s : Instrumentor P)
    (indexed : PipelineInfo × Nat) :
    Offers s (soughtPipeline slot s indexed.1) (pipelineAttempts slot location s indexed)
      (preparePipeline slot location s indexed).2 := by
  unfold soughtPipeline
  by_cases heligible : isEligible indexed.1 slot = true
  · obtain ⟨-, hlibrary, hfree⟩ := (isEligible_iff indexed.1 slot).mp heligible
    rw [if_pos heligible]
    exact offers_preparePipeline slot location s indexed hlibrary hfree
  · unfold pipelineAttempts preparePipeline
    rw [if_neg heligible, if_neg heligible, if_neg heligible]
    exact .quiet (.refl s) id

/-- Before pipelines are created, the code that is sought in them is offered, one pipeline after the
other. -/
theorem offers_preparePipelines (s : Instrumentor P) (infos : List PipelineInfo)
    (location : String) :
    Offers s (s.soughtInPipelines infos) (s.pipelinesAttempts infos location)
      (s.preparePipelines infos location).2 := by
  unfold soughtInPipelines pipelinesAttempts preparePipelines
  cases s.reservedSlot with
  | none => exact .quiet (.refl s) id
  | some slot =>
    cases hactive : s.isInstrumenting with
    | false => exact .off hactive _
    | true =>
      simp only [if_true]
      rw [← flatMap_zipIdx]
      exact Offers.thread id
        (fun s (indexed : PipelineInfo × Nat) ↦ soughtPipeline slot s indexed.1)
        (fun hsame ↦ funext fun indexed ↦ hsame.soughtPipeline_eq slot indexed.1)
        (offers_preparePipeline_of_sought slot location) s infos.zipIdx

/-- An attempt is made for a shader object if code is sought in it. -/
theorem objectAttempts_eq (reservation : Reservation) (call : String) (s : Instrumentor P)
    (indexed : ShaderObjectInfo × Nat) :
    objectAttempts reservation call s indexed =
      if s.seeksObject reservation indexed.1 then
        s.codeAttempts indexed.1.code indexed.1.isBindless (elementOf call indexed.2)
      else [] := by
  simp only [objectAttempts, seeksObject, Reservation.patch, List.length_map]
  by_cases hconflict : reservation.slot.toNat < indexed.1.setLayouts.length
  · simp [hconflict, Nat.not_le_of_lt hconflict]
  · simp only [if_neg hconflict, Nat.le_of_not_lt hconflict, decide_true, Bool.true_and]
    cases s.settings.selectInstrumentedShaders <;> cases indexed.1.selected <;> rfl

theorem map_offer_objectAttempts (reservation : Reservation) (call : String) (s : Instrumentor P)
    (indexed : ShaderObjectInfo × Nat) :
    (objectAttempts reservation call s indexed).map offer =
      if s.isInstrumenting then soughtObject reservation s indexed.1 else [] := by
  rw [objectAttempts_eq]
  unfold soughtObject codeAttempts
  cases s.seeksObject reservation indexed.1 <;> cases s.isInstrumenting <;>
    cases s.resources.isSome <;> cases hasMagic indexed.1.code <;> rfl

/-- Before shader objects are created, the code that is sought in them is offered, one after the
other. -/
theorem offers_prepareShaderObjects (s : Instrumentor P) (infos : List ShaderObjectInfo)
    (call : String) :
    Offers s (s.soughtInObjects infos) (s.objectsAttempts infos call)
      (s.prepareShaderObjects infos call).2 := by
  unfold soughtInObjects objectsAttempts prepareShaderObjects
  cases s.reservation with
  | none => exact .quiet (.refl s) id
  | some reservation =>
    cases hactive : s.isInstrumenting with
    | false => exact .off hactive _
    | true =>
      simp only [if_true]
      rw [← flatMap_zipIdx]
      exact Offers.thread id
        (fun s (indexed : ShaderObjectInfo × Nat) ↦ soughtObject reservation s indexed.1)
        (fun hsame ↦ funext fun indexed ↦ hsame.soughtObject_eq reservation indexed.1)
        (fun s indexed ↦ .of_map_offer
          (SameChoice.rewrites.prepareShaderObject reservation call s indexed)
          (off_of_rewrites.prepareShaderObject reservation call s indexed)
          (map_offer_objectAttempts reservation call s indexed)) s infos.zipIdx

/-! ### Calls that are cut in two -/

/-- Assumes: a device that is set up, and that shaders are rewritten. What is done in a call for
pipelines behind others is done in the state that these have left. -/
theorem preparePipelines_append {s : Instrumentor P} {slot : UInt32}
    (hslot : s.reservedSlot = some slot) (hactive : s.isInstrumenting = true)
    (older newer : List PipelineInfo) (location : String) :
    s.preparePipelines (older ++ newer) location =
      let first := s.preparePipelines older location
      let second := thread (preparePipeline slot location) first.2 (newer.zipIdx older.length)
      (first.1 ++ second.1, second.2) := by
  simp only [preparePipelines, hslot, if_pos hactive, List.zipIdx_append, Nat.zero_add]
  exact thread_append (preparePipeline slot location) s older.zipIdx (newer.zipIdx older.length)

theorem pipelinesAttempts_append {s : Instrumentor P} {slot : UInt32}
    (hslot : s.reservedSlot = some slot) (hactive : s.isInstrumenting = true)
    (older newer : List PipelineInfo) (location : String) :
    s.pipelinesAttempts (older ++ newer) location =
      s.pipelinesAttempts older location ++
        threadNotes (pipelineAttempts slot location) (preparePipeline slot location)
          (s.preparePipelines older location).2 (newer.zipIdx older.length) := by
  simp only [pipelinesAttempts, preparePipelines, hslot, if_pos hactive, List.zipIdx_append,
    Nat.zero_add]
  exact threadNotes_append _ _ s older.zipIdx (newer.zipIdx older.length)

/-- Assumes: a device that is set up, and that shaders are rewritten. What is done in a call for
shader objects behind others is done in the state that these have left. -/
theorem prepareShaderObjects_append {s : Instrumentor P} {reservation : Reservation}
    (hready : s.reservation = some reservation) (hactive : s.isInstrumenting = true)
    (older newer : List ShaderObjectInfo) (call : String) :
    s.prepareShaderObjects (older ++ newer) call =
      let first := s.prepareShaderObjects older call
      let second := thread (prepareShaderObject reservation call) first.2
        (newer.zipIdx older.length)
      (first.1 ++ second.1, second.2) := by
  simp only [prepareShaderObjects, hready, if_pos hactive, List.zipIdx_append, Nat.zero_add]
  exact thread_append (prepareShaderObject reservation call) s older.zipIdx
    (newer.zipIdx older.length)

theorem objectsAttempts_append {s : Instrumentor P} {reservation : Reservation}
    (hready : s.reservation = some reservation) (hactive : s.isInstrumenting = true)
    (older newer : List ShaderObjectInfo) (call : String) :
    s.objectsAttempts (older ++ newer) call =
      s.objectsAttempts older call ++
        threadNotes (objectAttempts reservation call) (prepareShaderObject reservation call)
          (s.prepareShaderObjects older call).2 (newer.zipIdx older.length) := by
  simp only [objectsAttempts, prepareShaderObjects, hready, if_pos hactive, List.zipIdx_append,
    Nat.zero_add]
  exact threadNotes_append _ _ s older.zipIdx (newer.zipIdx older.length)

/-- That a call makes a draft and some attempts for the pipeline `info`, which stands behind `older`
and before `newer` in it. -/
structure Turn (s : Instrumentor P) (location : String) (older : List PipelineInfo)
    (info : PipelineInfo) (newer : List PipelineInfo) (draft : PipelineDraft)
    (attempts : List Attempt) : Prop where
  draft : ∃ rest, (s.preparePipelines (older ++ info :: newer) location).1 =
    (s.preparePipelines older location).1 ++ draft :: rest
  attempts : s.pipelinesAttempts (older ++ [info]) location =
    s.pipelinesAttempts older location ++ attempts
  others : ∃ rest, s.pipelinesAttempts (older ++ info :: newer) location =
    s.pipelinesAttempts (older ++ [info]) location ++ rest

/-- Assumes: a device that is set up, and that shaders are rewritten. Each pipeline of a call is
prepared in the state that those before it have left. -/
theorem turn_preparePipeline {s : Instrumentor P} {slot : UInt32}
    (hslot : s.reservedSlot = some slot) (hactive : s.isInstrumenting = true)
    (older newer : List PipelineInfo) (info : PipelineInfo) (location : String) :
    let before := (s.preparePipelines older location).2
    let prepared := preparePipeline slot location before (info, older.length)
    s.Turn location older info newer prepared.1
        (pipelineAttempts slot location before (info, older.length)) ∧
      (s.preparePipelines (older ++ [info]) location).2 = prepared.2 := by
  intro before prepared
  have hone := preparePipelines_append hslot hactive older [info] location
  refine ⟨⟨?_, ?_, ?_⟩, congrArg Prod.snd hone⟩
  · have hall := preparePipelines_append hslot hactive older (info :: newer) location
    exact ⟨_, congrArg Prod.fst hall⟩
  · rw [pipelinesAttempts_append hslot hactive older [info] location]
    simp only [List.zipIdx_cons, List.zipIdx_nil, threadNotes, List.append_nil]
    rfl
  · rw [List.append_cons]
    exact ⟨_, pipelinesAttempts_append hslot hactive (older ++ [info]) newer location⟩

end Instrumentor

/-! ### Single hooks -/

namespace Session

open Instrumentor

variable {P : Platform}

/-- The code that is sought by a hook, in the order of the create infos, and of the stages with
those of libraries first. -/
def sought (t : Session P) : Hook → List (Code × Bool)
  | .preparePipelines infos _ => t.state.soughtInPipelines infos
  | .prepareShaderObjects infos _ => t.state.soughtInObjects infos
  | _ => []

/-- How the attempts of a hook stand to what is sought by it: they are made on this, in order, as
long as instrumentation is not switched off. -/
structure OffersSought (t : Session P) (hook : Hook) : Prop where
  ordered : (t.attempts hook).map offer <+: t.sought hook
  complete : (t.step hook).state.isInstrumenting = true →
    (t.attempts hook).map offer = t.sought hook
  stopped : t.state.isInstrumenting = false → t.attempts hook = []

theorem offersSought_step (t : Session P) (hook : Hook) : t.OffersSought hook := by
  cases hook with
  | preparePipelines infos location =>
    have hoffers := offers_preparePipelines t.state infos location
    exact ⟨hoffers.ordered, hoffers.complete, fun hoff ↦ (hoffers.stopped hoff).1⟩
  | prepareShaderObjects infos call =>
    have hoffers := offers_prepareShaderObjects t.state infos call
    exact ⟨hoffers.ordered, hoffers.complete, fun hoff ↦ (hoffers.stopped hoff).1⟩
  | _ => exact ⟨List.prefix_rfl, fun _ ↦ rfl, fun _ ↦ rfl⟩

end Session

end ShaderGuard
