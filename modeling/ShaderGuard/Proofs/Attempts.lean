import ShaderGuard.Proofs.Session

/-!
# Attempts to instrument code

An attempt is made for each piece of shader code that is to be instrumented on a device that is set
up, while shaders are being rewritten. It consumes an identifier, and words come of it or not; the
words may be those of an earlier attempt. `Session.attempts` notes down the attempts of a hook, in
the order of the calls, of the create infos, and of the stages with those of libraries first.

The hooks before creations do four things: they log, they ask the device for modules and libraries,
they switch instrumentation off, and they attempt to instrument code. What each of these does to the
state, relative to the attempts made, a whole hook does (`RewritesQuietly.preparePipelines`,
`RewritesQuietly.prepareShaderObjects`).
-/

set_option autoImplicit false

namespace ShaderGuard

open Bytecode (ShaderId hasMagic fingerprint)

/-! ### The attempts of a hook -/

/-- An attempt to instrument code. -/
structure Attempt where
  /-- The identifier that the attempt consumes. -/
  id : ShaderId
  code : Code
  /-- Whether the layout that the shader is used with has a bindless set. -/
  bindless : Bool
  /-- The instrumented words, if the attempt succeeds. -/
  made : Option Code
  deriving DecidableEq

/-- That the fingerprint tells the code of some attempts apart. -/
def FingerprintsDiffer (attempts : List Attempt) : Prop :=
  ∀ first ∈ attempts, ∀ second ∈ attempts,
    fingerprint first.code = fingerprint second.code → first.code = second.code

namespace Instrumentor

variable {P : Platform}

/-- The attempt made for a piece of code, if one is made. -/
def codeAttempts (s : Instrumentor P) (code : Code) (bindless : Bool) (location : String) :
    List Attempt :=
  if s.resources.isSome && s.isInstrumenting && hasMagic code then
    [{ id := (s.identify code).1
       code
       bindless
       made := (s.instrumentCode code bindless location).1.map InstrumentedCode.code }]
  else []

/-- The attempt made for a stage. -/
def stageAttempts (site : StageSite) (s : Instrumentor P) (indexed : ShaderStage × Nat) :
    List Attempt :=
  match indexed.1.code with
  | none => []
  | some code =>
    if s.isSelected indexed.1 then s.codeAttempts code site.bindless site.location else []

/-- The attempts made for some stages. -/
def stagesAttempts (site : StageSite) (s : Instrumentor P) (stages : List ShaderStage) :
    List Attempt :=
  threadNotes (stageAttempts site) (instrumentStage site) s stages.zipIdx

/-- The attempts made for a library. -/
def libraryAttempts (site : StageSite) (link : LinkState P) (library : GraphicsLibrary) :
    List Attempt :=
  if library.info.stages.isEmpty then []
  else stagesAttempts { site with library := some library.handle } link.state library.info.stages

/-- The attempts made for the libraries of a pipeline. -/
def librariesAttempts (site : StageSite) (link : LinkState P) (libraries : List GraphicsLibrary) :
    List Attempt :=
  threadNotes (libraryAttempts site) (relinkLibrary site) link libraries

/-- The attempts made for a pipeline of a call. -/
def pipelineAttempts (slot : UInt32) (location : String) (s : Instrumentor P)
    (indexed : PipelineInfo × Nat) : List Attempt :=
  if isEligible indexed.1 slot then
    let site : StageSite := ⟨none, indexed.1.isBindless, elementOf location indexed.2⟩
    let linked := thread (relinkLibrary site) ⟨{}, s⟩ indexed.1.libraries
    librariesAttempts site ⟨{}, s⟩ indexed.1.libraries ++
      stagesAttempts site linked.2.state indexed.1.stages
  else []

/-- The attempts made before pipelines are created. -/
def pipelinesAttempts (s : Instrumentor P) (infos : List PipelineInfo) (location : String) :
    List Attempt :=
  match s.reservedSlot with
  | none => []
  | some slot =>
    if s.isInstrumenting then
      threadNotes (pipelineAttempts slot location) (preparePipeline slot location) s infos.zipIdx
    else []

/-- The attempt made for a shader object of a call. -/
def objectAttempts (reservation : Reservation) (call : String) (s : Instrumentor P)
    (indexed : ShaderObjectInfo × Nat) : List Attempt :=
  let info := indexed.1
  match reservation.patch (info.setLayouts.map SetLayout.handle) with
  | .conflict _ => []
  | .patched _ =>
    if s.settings.selectInstrumentedShaders && !info.selected then []
    else s.codeAttempts info.code info.isBindless (elementOf call indexed.2)

/-- The attempts made before shader objects are created. -/
def objectsAttempts (s : Instrumentor P) (infos : List ShaderObjectInfo) (call : String) :
    List Attempt :=
  match s.reservation with
  | none => []
  | some reservation =>
    if s.isInstrumenting then
      threadNotes (objectAttempts reservation call) (prepareShaderObject reservation call) s
        infos.zipIdx
    else []

/-- Code on which no attempt is made is left alone. -/
theorem instrumentCode_of_spared {s : Instrumentor P} {code : Code}
    (h : (s.resources.isSome && s.isInstrumenting && hasMagic code) = false) (bindless : Bool)
    (location : String) : s.instrumentCode code bindless location = (none, s) := by
  unfold instrumentCode
  cases hready : s.resources with
  | none => rfl
  | some resources =>
    rw [hready, Option.isSome_some, Bool.true_and] at h
    exact if_neg (Bool.eq_false_iff.mp h)

/-- So it is for all code where shaders are not being rewritten. -/
theorem instrumentCode_of_off {s : Instrumentor P} (hoff : s.isInstrumenting = false)
    (code : Code) (bindless : Bool) (location : String) :
    s.instrumentCode code bindless location = (none, s) := by
  refine instrumentCode_of_spared ?_ bindless location
  rw [hoff, Bool.and_false, Bool.false_and]

/-- Words that come of a piece of code come of an attempt. -/
theorem codeAttempts_of_made {s : Instrumentor P} {code : Code} {bindless : Bool}
    {location : String} {made : InstrumentedCode}
    (h : (s.instrumentCode code bindless location).1 = some made) :
    s.codeAttempts code bindless location = [⟨made.id, code, bindless, some made.code⟩] := by
  have hid : s.resources.isSome = true ∧ (s.isInstrumenting && hasMagic code) = true ∧
      made.id = (s.identify code).1 := by
    simp only [instrumentCode] at h
    split at h
    · cases h
    · next resources hresources =>
      split at h
      · next hgate =>
        refine ⟨by rw [hresources]; rfl, hgate, ?_⟩
        split at h
        · cases h
          rfl
        · simp only [runPasses] at h
          split at h <;> cases h
          rfl
      · cases h
  simp only [codeAttempts, hid.1, Bool.true_and, hid.2.1, if_true, h, Option.map_some, hid.2.2]

/-- Of code that comes to nothing no attempt has been made, or one that came to nothing. -/
theorem codeAttempts_of_none {s : Instrumentor P} {code : Code} {bindless : Bool}
    {location : String} (h : (s.instrumentCode code bindless location).1 = none) :
    s.codeAttempts code bindless location = [] ∨
      s.codeAttempts code bindless location = [⟨(s.identify code).1, code, bindless, none⟩] := by
  unfold codeAttempts
  split
  · rw [h]
    exact Or.inr rfl
  · exact Or.inl rfl

/-- That a pipeline is instrumented if it is prepared in this state. -/
def Processes (s : Instrumentor P) (info : PipelineInfo) : Prop :=
  s.isInstrumenting = true ∧ ∃ slot, s.reservedSlot = some slot ∧ isEligible info slot = true

/-- Pipelines of a call stay as they are where no device is set up, or shaders are not being
rewritten. -/
theorem preparePipelines_of_spared {s : Instrumentor P}
    (h : s.reservedSlot = none ∨ s.isInstrumenting = false) (infos : List PipelineInfo)
    (location : String) :
    s.preparePipelines infos location = (infos.map fun info ↦ { info }, s) := by
  unfold preparePipelines
  rcases h with hnone | hoff
  · rw [hnone]
  · split
    · rfl
    · rw [if_neg (by rw [hoff]; exact Bool.false_ne_true)]

/-- So it is for shader objects. -/
theorem prepareShaderObjects_of_spared {s : Instrumentor P}
    (h : s.reservation = none ∨ s.isInstrumenting = false) (infos : List ShaderObjectInfo)
    (call : String) :
    s.prepareShaderObjects infos call = (infos.map fun info ↦ { info }, s) := by
  unfold prepareShaderObjects
  rcases h with hnone | hoff
  · rw [hnone]
  · split
    · rfl
    · rw [if_neg (by rw [hoff]; exact Bool.false_ne_true)]

/-- Before pipelines are created none is processed and all stay as they are, without any attempt, or
they are prepared one by one and processed if they are eligible. -/
theorem preparePipelines_cases (s : Instrumentor P) (infos : List PipelineInfo)
    (location : String) :
    (s.preparePipelines infos location = (infos.map fun info ↦ { info }, s) ∧
        s.pipelinesAttempts infos location = [] ∧ ∀ info, ¬ s.Processes info) ∨
      ∃ slot, s.preparePipelines infos location =
          thread (preparePipeline slot location) s infos.zipIdx ∧
        s.pipelinesAttempts infos location =
          threadNotes (pipelineAttempts slot location) (preparePipeline slot location) s
            infos.zipIdx ∧
        ∀ info, s.Processes info ↔ isEligible info slot = true := by
  unfold preparePipelines pipelinesAttempts Processes
  cases s.reservedSlot with
  | none => exact Or.inl ⟨rfl, rfl, by simp⟩
  | some slot =>
    by_cases hactive : s.isInstrumenting = true
    · exact Or.inr ⟨slot, if_pos hactive, if_pos hactive, by simp [hactive]⟩
    · exact Or.inl ⟨if_neg hactive, if_neg hactive, by simp [hactive]⟩

/-- Before shader objects are created they stay as they are without any attempt, or they are
prepared one by one. -/
theorem prepareShaderObjects_cases (s : Instrumentor P) (infos : List ShaderObjectInfo)
    (call : String) :
    (s.prepareShaderObjects infos call = (infos.map fun info ↦ { info }, s) ∧
        s.objectsAttempts infos call = []) ∨
      ∃ reservation, s.prepareShaderObjects infos call =
          thread (prepareShaderObject reservation call) s infos.zipIdx ∧
        s.objectsAttempts infos call =
          threadNotes (objectAttempts reservation call) (prepareShaderObject reservation call) s
            infos.zipIdx := by
  unfold prepareShaderObjects objectsAttempts
  cases s.reservation with
  | none => exact Or.inl ⟨rfl, rfl⟩
  | some reservation =>
    by_cases hactive : s.isInstrumenting = true
    · exact Or.inr ⟨reservation, if_pos hactive, if_pos hactive⟩
    · exact Or.inl ⟨if_neg hactive, if_neg hactive⟩

end Instrumentor

/-- The attempts of a hook. -/
def Session.attempts {P : Platform} (t : Session P) : Hook → List Attempt
  | .preparePipelines infos location => t.state.pipelinesAttempts infos location
  | .prepareShaderObjects infos call => t.state.objectsAttempts infos call
  | _ => []

/-! ### What the hooks before creations keep -/

/-- Whether an entry says that instrumentation is being switched off. -/
def Entry.reportsInternalError (entry : Entry) : Bool :=
  entry.messageClass = some .internalError || entry.messageClass = some .printfError

/-- A relation between two states and the attempts made between them, kept by everything that the
hooks before creations do. Of what they record in the log only this is asked, that it says of no
internal error. -/
structure RewritesQuietly {P : Platform}
    (R : Instrumentor P → List Attempt → Instrumentor P → Prop) : Prop extends Chains R where
  record : ∀ s entry, entry.reportsInternalError = false → R s [] (s.record entry)
  internalError : ∀ s location message, R s [] (s.internalError location message)
  createModule : ∀ s code, R s [] (s.createModule code).2
  createLibrary : ∀ s info, R s [] (s.createLibrary info).2
  instrumentCode : ∀ s code bindless location,
    R s (s.codeAttempts code bindless location) (s.instrumentCode code bindless location).2

/-- A relation between two states and the attempts made between them, kept by everything that the
hooks before creations do, whatever is recorded in the log. -/
structure Rewrites {P : Platform} (R : Instrumentor P → List Attempt → Instrumentor P → Prop) :
    Prop extends Chains R where
  record : ∀ s entry, R s [] (s.record entry)
  internalError : ∀ s location message, R s [] (s.internalError location message)
  createModule : ∀ s code, R s [] (s.createModule code).2
  createLibrary : ∀ s info, R s [] (s.createLibrary info).2
  instrumentCode : ∀ s code bindless location,
    R s (s.codeAttempts code bindless location) (s.instrumentCode code bindless location).2

theorem reportsInternalError_plain (severity : Severity) (source text : String) :
    (Entry.plain severity source text).reportsInternalError = false := rfl

theorem reportsInternalError_warning (settings : Settings) (location message : String) :
    (Subsystem.warningReport settings location message).reportsInternalError = false := by
  unfold Subsystem.warningReport
  cases settings.printfOnly <;> rfl

namespace RewritesQuietly

open Instrumentor

variable {P : Platform} {R : Instrumentor P → List Attempt → Instrumentor P → Prop}

theorem placeCode (h : RewritesQuietly R) (site : StageSite) (s : Instrumentor P)
    (stage : ShaderStage) (index : Nat) (made : InstrumentedCode) :
    R s [] (placeCode site s stage index made).2 := by
  simp only [Instrumentor.placeCode]
  split
  · split
    · exact h.createModule s made.code
    · exact h.trans (h.createModule s made.code) (h.internalError _ _ _)
  · split
    · exact h.refl s
    · exact h.record s _ (reportsInternalError_plain _ _ _)

theorem instrumentStage (h : RewritesQuietly R) (site : StageSite) (s : Instrumentor P)
    (indexed : ShaderStage × Nat) :
    R s (stageAttempts site s indexed) (instrumentStage site s indexed).2 := by
  simp only [Instrumentor.instrumentStage, stageAttempts]
  cases hcode : indexed.1.code with
  | none => exact h.refl s
  | some code =>
    have hmade := h.instrumentCode s code site.bindless site.location
    by_cases hselected : s.isSelected indexed.1 = true
    · simp only [hselected, if_true]
      split
      · exact hmade
      · simpa using h.trans hmade (h.placeCode site _ indexed.1 indexed.2 _)
    · simp only [if_neg hselected]
      exact h.refl s

theorem instrumentStages (h : RewritesQuietly R) (site : StageSite) (s : Instrumentor P)
    (stages : List ShaderStage) :
    R s (stagesAttempts site s stages) (instrumentStages site s stages).2 :=
  h.toChains.thread (h.instrumentStage site) s stages.zipIdx

theorem relinkLibrary (h : RewritesQuietly R) (site : StageSite) (link : LinkState P)
    (library : GraphicsLibrary) :
    R link.state (libraryAttempts site link library) (relinkLibrary site link library).2.state := by
  simp only [Instrumentor.relinkLibrary, libraryAttempts]
  split
  · exact h.refl link.state
  · have hstages := h.instrumentStages { site with library := some library.handle } link.state
      library.info.stages
    have hcreated := h.trans hstages (h.createLibrary _ { library.info with
      stages := (Instrumentor.instrumentStages { site with library := some library.handle }
        link.state library.info.stages).1.map StageOutcome.stage })
    rw [List.append_nil] at hcreated
    split
    · exact hcreated
    · simpa using h.trans hcreated (h.internalError _ _ _)

theorem relinkLibraries (h : RewritesQuietly R) (site : StageSite) (link : LinkState P)
    (libraries : List GraphicsLibrary) :
    R link.state (librariesAttempts site link libraries)
      (thread (Instrumentor.relinkLibrary site) link libraries).2.state :=
  (⟨fun link ↦ h.refl link.state, h.trans⟩ :
    Chains fun (before : LinkState P) attempts after ↦
      R before.state attempts after.state).thread (h.relinkLibrary site) link libraries

theorem preparePipeline (h : RewritesQuietly R) (slot : UInt32) (location : String)
    (s : Instrumentor P) (indexed : PipelineInfo × Nat) :
    R s (pipelineAttempts slot location s indexed) (preparePipeline slot location s indexed).2 := by
  simp only [Instrumentor.preparePipeline, pipelineAttempts]
  split
  · simp only [instrumentPipeline]
    let site : StageSite := ⟨none, indexed.1.isBindless, elementOf location indexed.2⟩
    have hlinked := h.relinkLibraries site ⟨{}, s⟩ indexed.1.libraries
    have hstaged := h.trans hlinked (h.instrumentStages site _ indexed.1.stages)
    simpa using h.trans hstaged (h.record _ _ (reportsInternalError_plain _ _ _))
  · exact h.refl s

/-- What holds of each thing done before pipelines are created holds of the whole hook. -/
theorem preparePipelines (h : RewritesQuietly R) (s : Instrumentor P) (infos : List PipelineInfo)
    (location : String) :
    R s (s.pipelinesAttempts infos location) (s.preparePipelines infos location).2 := by
  rcases s.preparePipelines_cases infos location with
    ⟨hkept, hnone, -⟩ | ⟨slot, hprepared, hattempts, -⟩
  · rw [hkept, hnone]
    exact h.refl s
  · rw [hprepared, hattempts]
    exact h.toChains.thread (h.preparePipeline slot location) s infos.zipIdx

theorem prepareShaderObject (h : RewritesQuietly R) (reservation : Reservation) (call : String)
    (s : Instrumentor P) (indexed : ShaderObjectInfo × Nat) :
    R s (objectAttempts reservation call s indexed)
      (prepareShaderObject reservation call s indexed).2 := by
  simp only [Instrumentor.prepareShaderObject, objectAttempts]
  cases reservation.patch (indexed.1.setLayouts.map SetLayout.handle) with
  | conflict count => exact h.record s _ (reportsInternalError_warning _ _ _)
  | patched layouts =>
    by_cases hskipped : (s.settings.selectInstrumentedShaders && !indexed.1.selected) = true
    · have hpatched : (s.settings.selectInstrumentedShaders &&
          !(indexed.1.patched reservation).selected) = true := hskipped
      simp only [instrumentObject, if_pos hskipped, if_pos hpatched]
      exact h.refl s
    · have hpatched : ¬ (s.settings.selectInstrumentedShaders &&
          !(indexed.1.patched reservation).selected) = true := hskipped
      have hcode := h.instrumentCode s indexed.1.code indexed.1.isBindless
        (elementOf call indexed.2)
      simp only [instrumentObject, if_neg hskipped, if_neg hpatched]
      split <;> exact hcode

/-- What holds of each thing done before shader objects are created holds of the whole hook. -/
theorem prepareShaderObjects (h : RewritesQuietly R) (s : Instrumentor P)
    (infos : List ShaderObjectInfo) (call : String) :
    R s (s.objectsAttempts infos call) (s.prepareShaderObjects infos call).2 := by
  rcases s.prepareShaderObjects_cases infos call with
    ⟨hkept, hnone⟩ | ⟨reservation, hprepared, hattempts⟩
  · rw [hkept, hnone]
    exact h.refl s
  · rw [hprepared, hattempts]
    exact h.toChains.thread (h.prepareShaderObject reservation call) s infos.zipIdx

end RewritesQuietly

namespace Rewrites

open Instrumentor

variable {P : Platform} {R : Instrumentor P → List Attempt → Instrumentor P → Prop}

/-- What is kept whatever is recorded is kept. -/
theorem quietly (h : Rewrites R) : RewritesQuietly R :=
  { h with record := fun s entry _ ↦ h.record s entry }

theorem instrumentStage (h : Rewrites R) (site : StageSite) (s : Instrumentor P)
    (indexed : ShaderStage × Nat) :
    R s (stageAttempts site s indexed) (instrumentStage site s indexed).2 :=
  h.quietly.instrumentStage site s indexed

theorem instrumentStages (h : Rewrites R) (site : StageSite) (s : Instrumentor P)
    (stages : List ShaderStage) :
    R s (stagesAttempts site s stages) (instrumentStages site s stages).2 :=
  h.quietly.instrumentStages site s stages

theorem relinkLibrary (h : Rewrites R) (site : StageSite) (link : LinkState P)
    (library : GraphicsLibrary) :
    R link.state (libraryAttempts site link library) (relinkLibrary site link library).2.state :=
  h.quietly.relinkLibrary site link library

theorem preparePipeline (h : Rewrites R) (slot : UInt32) (location : String) (s : Instrumentor P)
    (indexed : PipelineInfo × Nat) :
    R s (pipelineAttempts slot location s indexed) (preparePipeline slot location s indexed).2 :=
  h.quietly.preparePipeline slot location s indexed

theorem preparePipelines (h : Rewrites R) (s : Instrumentor P) (infos : List PipelineInfo)
    (location : String) :
    R s (s.pipelinesAttempts infos location) (s.preparePipelines infos location).2 :=
  h.quietly.preparePipelines s infos location

theorem prepareShaderObject (h : Rewrites R) (reservation : Reservation) (call : String)
    (s : Instrumentor P) (indexed : ShaderObjectInfo × Nat) :
    R s (objectAttempts reservation call s indexed)
      (prepareShaderObject reservation call s indexed).2 :=
  h.quietly.prepareShaderObject reservation call s indexed

theorem prepareShaderObjects (h : Rewrites R) (s : Instrumentor P)
    (infos : List ShaderObjectInfo) (call : String) :
    R s (s.objectsAttempts infos call) (s.prepareShaderObjects infos call).2 :=
  h.quietly.prepareShaderObjects s infos call

end Rewrites

end ShaderGuard
