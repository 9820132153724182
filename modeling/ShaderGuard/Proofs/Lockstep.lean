import ShaderGuard.Proofs.Audit

/-!
# Two states in step

Two runs of the library that differ in the log, in what is registered and recorded, and in what has
been destroyed on the device prepare further creations in the same way, because nothing of this is
looked at. To say so takes two states at a time. They are in step if everything that preparations
read is the same (`Instrumentor.SameSources`) and the device has been asked for the same creations
since some earlier point (`Instrumentor.InStep`). Each thing that is done before creations gives
the same answer from two states in step, and leaves them in step; the locations that it is told of
may differ. The lemmas say so from the passes, which do not look at the log
(`PassPlan.sameAnswer_run`), up to single pipelines (`Instrumentor.InStep.preparePipeline`) and
shader objects (`Instrumentor.InStep.prepareShaderObject`).

One thing has to be asked of the device. Its answers to creations may come of the creations so far,
but not of destructions: there is a view of its state that they come of and that destructions leave
alone (`Device.AnswersBy`).

Recording created objects reads other things: what is registered and recorded. Two states that agree
in these agree again when the same has been recorded in both, and the same has been destroyed in
both (`Instrumentor.RecordsInStep`).
-/

set_option autoImplicit false

namespace ShaderGuard

open Bytecode (ShaderId)

/-! ### The same answers from two states -/

/-- That two answers are the same, and that the states behind them are related. -/
structure SameAnswer {σ β : Type} (R : σ → σ → Prop) (left right : β × σ) : Prop where
  value : right.1 = left.1
  state : R left.2 right.2

/-- Assumes: two ways to work through lists whose elements stand to each other, such that from
related states each step of one way answers as the step of the other does, and the states behind
them are related. So it is for the whole lists. -/
theorem SameAnswer.thread {σ α β : Type} {R : σ → σ → Prop} {S : α → α → Prop}
    {step other : σ → α → β × σ}
    (hstep : ∀ {s t a b}, R s t → S a b → SameAnswer R (step s a) (other t b)) {xs ys : List α}
    (hlists : List.Forall₂ S xs ys) {s t : σ} (h : R s t) :
    SameAnswer R (thread step s xs) (thread other t ys) := by
  induction hlists generalizing s t with
  | nil => exact ⟨rfl, h⟩
  | cons hone _ ih =>
    have hhead := hstep h hone
    have hrest := ih hhead.state
    refine ⟨?_, hrest.state⟩
    rw [thread_cons, thread_cons, hhead.value, hrest.value]

/-- Elements stand to each other wherever their numbers begin. -/
theorem forall₂_zipIdx {α : Type} (xs : List α) (first second : Nat) :
    List.Forall₂ (fun (a b : α × Nat) ↦ b.1 = a.1) (xs.zipIdx first) (xs.zipIdx second) := by
  induction xs generalizing first second with
  | nil => exact List.Forall₂.nil
  | cons a rest ih =>
    rw [List.zipIdx_cons, List.zipIdx_cons]
    exact List.Forall₂.cons rfl (ih _ _)

variable {P : Platform}

/-! ### The passes do not look at the log -/

/-- Two workbenches with the same tools and the same files. -/
structure Workbench.SameTools (bench other : Workbench P) : Prop where
  tools : other.tools = bench.tools
  storage : other.storage = bench.storage

/-- The tools have answered the same. -/
theorem Workbench.SameTools.withTools {bench other : Workbench P} (h : bench.SameTools other)
    (tools : P.ToolState) (log log' : List Entry) :
    SameTools { bench with tools, log } { other with tools, log := log' } :=
  ⟨rfl, h.storage⟩

namespace PassPlan

open Workbench (SameTools)

variable {bench other : Workbench P}

theorem sameTools_dump (h : bench.SameTools other) (plan : PassPlan) (id : ShaderId)
    (stage : DumpStage) (code : Code) :
    (plan.dump bench id stage code).SameTools (plan.dump other id stage code) := by
  unfold dump
  split
  · simp only [h.storage]
    split <;> exact ⟨h.tools, rfl⟩
  · exact h

theorem sameAnswer_validate (h : bench.SameTools other) (plan : PassPlan) (id : ShaderId)
    (code : Code) :
    SameAnswer SameTools (plan.validate bench id code) (plan.validate other id code) := by
  unfold validate
  rw [h.tools]
  split
  · exact ⟨rfl, h.withTools _ _ _⟩
  · exact ⟨rfl, h⟩

theorem sameAnswer_optimize (h : bench.SameTools other) (plan : PassPlan) (id : ShaderId)
    (code : Code) :
    SameAnswer SameTools (plan.optimize bench id code) (plan.optimize other id code) := by
  unfold optimize
  simp only [h.tools]
  split
  · exact ⟨rfl, h⟩
  · have hasked := h.withTools (P.tools.eliminateDeadCode code plan.capabilities.targetEnv
      bench.tools).2.2
    split
    · exact ⟨rfl, sameTools_dump (hasked _ _) plan id .optimized _⟩
    · exact ⟨rfl, hasked _ _⟩

theorem sameAnswer_finish (h : bench.SameTools other) (plan : PassPlan) (id : ShaderId)
    (module : P.tools.Module) :
    SameAnswer SameTools (plan.finish bench id module) (plan.finish other id module) := by
  simp only [finish, h.tools]
  generalize P.tools.postProcess module bench.tools = legal
  generalize P.tools.serialize legal.1 legal.2 = written
  have hdumped := sameTools_dump (h.withTools written.2 bench.log other.log) plan id .after
    written.1
  have hverdict := sameAnswer_validate hdumped plan id written.1
  have hoptimized := sameAnswer_optimize hverdict.state plan id written.1
  rw [hverdict.value]
  split
  · exact ⟨rfl, hverdict.state⟩
  · exact ⟨congrArg (Except.map PassOutcome.instrumented) hoptimized.value, hoptimized.state⟩

theorem sameAnswer_instrument (h : bench.SameTools other) (plan : PassPlan) (id : ShaderId)
    (module : P.tools.Module) :
    SameAnswer SameTools (plan.instrument bench id module) (plan.instrument other id module) := by
  simp only [instrument, h.tools]
  split
  · exact sameAnswer_finish (h.withTools _ bench.log other.log) plan id _
  · exact ⟨rfl, h.withTools _ _ _⟩

/-- What the passes make of a shader does not depend on the log. -/
theorem sameAnswer_run (h : bench.SameTools other) (plan : PassPlan) (code : Code) (id : ShaderId)
    (bindless : Bool) :
    SameAnswer SameTools (plan.run bench code id bindless) (plan.run other code id bindless) := by
  have hdumped := sameTools_dump h plan id .before code
  simp only [run, hdumped.tools]
  split
  · generalize P.tools.load code (plan.moduleSettings id bindless)
      (plan.dump bench id .before code).tools = loaded
    have hloaded := hdumped.withTools loaded.2 (plan.dump bench id .before code).log
      (plan.dump other id .before code).log
    split
    · exact ⟨rfl, hloaded⟩
    · exact sameAnswer_instrument hloaded plan id _
  · exact ⟨rfl, h⟩

end PassPlan

/-! ### Devices whose answers come of what they have created -/

/-- That what a device answers to creations comes of what `view` shows of its state, and that
destructions change nothing of what it shows. Where answers depend on nothing but the creations so
far, what would be answered from now on is such a view. -/
structure Device.AnswersBy {σ γ : Type} (device : Device σ) (view : σ → γ) : Prop where
  createModule : ∀ code {s t : σ}, view t = view s →
    (device.createModule code t).value = (device.createModule code s).value ∧
      view (device.createModule code t).state = view (device.createModule code s).state
  createLibrary : ∀ info {s t : σ}, view t = view s →
    (device.createLibrary info t).value = (device.createLibrary info s).value ∧
      view (device.createLibrary info t).state = view (device.createLibrary info s).state
  destroyModule : ∀ module s, view (device.destroyModule module s).state = view s
  destroyPipeline : ∀ pipeline s, view (device.destroyPipeline pipeline s).state = view s

/-- That the same calls of a kind have been added to two lists of calls. -/
def SameCalls (kind : DeviceCall → Bool) (older older' calls calls' : List DeviceCall) : Prop :=
  ∃ added, (∀ call ∈ added, kind call = true) ∧ calls = added ++ older ∧ calls' = added ++ older'

namespace SameCalls

variable {kind : DeviceCall → Bool} {older older' calls calls' : List DeviceCall}

theorem refl (kind : DeviceCall → Bool) (older older' : List DeviceCall) :
    SameCalls kind older older' older older' :=
  ⟨[], fun _ hcall ↦ absurd hcall List.not_mem_nil, rfl, rfl⟩

theorem cons (h : SameCalls kind older older' calls calls') (call : DeviceCall)
    (hkind : kind call = true) :
    SameCalls kind older older' (call :: calls) (call :: calls') := by
  obtain ⟨added, hadded, rfl, rfl⟩ := h
  exact ⟨call :: added, List.forall_mem_cons.mpr ⟨hkind, hadded⟩, rfl, rfl⟩

end SameCalls

/-- Whether some creations come before or behind some destructions makes no difference to the order
in which things are created, nor to that in which they are destroyed. -/
theorem filter_calls_swap {destroyed created : List DeviceCall}
    (hdestroyed : ∀ call ∈ destroyed, (!call.asksToCreate) = true)
    (hcreated : ∀ call ∈ created, call.asksToCreate = true) (newer older : List DeviceCall) :
    (newer ++ (created ++ (destroyed ++ older))).filter DeviceCall.asksToCreate =
        (newer ++ (destroyed ++ (created ++ older))).filter DeviceCall.asksToCreate ∧
      (newer ++ (created ++ (destroyed ++ older))).filter (fun call ↦ !call.asksToCreate) =
        (newer ++ (destroyed ++ (created ++ older))).filter fun call ↦ !call.asksToCreate := by
  have hnone : destroyed.filter DeviceCall.asksToCreate = [] :=
    List.filter_eq_nil_iff.mpr fun call hcall ↦ by simpa using hdestroyed call hcall
  have hnone' : created.filter (fun call ↦ !call.asksToCreate) = [] :=
    List.filter_eq_nil_iff.mpr fun call hcall ↦ by simpa using hcreated call hcall
  simp only [List.filter_append, hnone, hnone', List.nil_append, and_self]

/-! ### Preparing creations from two states -/

namespace Instrumentor

/-- Two states that creations are prepared from in the same way: whatever is read there is the same,
and the device shows the same. -/
structure SameSources {γ : Type} (view : P.DeviceState → γ) (s t : Instrumentor P.audited) :
    Prop where
  bench : s.toWorkbench.SameTools t.toWorkbench
  subsystem : t.subsystem = s.subsystem
  resources : t.resources = s.resources
  cache : t.cache = s.cache
  nextId : t.nextId = s.nextId
  selectedModules : t.selectedModules = s.selectedModules
  device : view t.device.1 = view s.device.1

namespace SameSources

variable {γ : Type} {view : P.DeviceState → γ} {s t u : Instrumentor P.audited}

theorem refl (s : Instrumentor P.audited) : SameSources view s s :=
  ⟨⟨rfl, rfl⟩, rfl, rfl, rfl, rfl, rfl, rfl⟩

theorem symm (h : SameSources view s t) : SameSources view t s :=
  ⟨⟨h.bench.tools.symm, h.bench.storage.symm⟩, h.subsystem.symm, h.resources.symm, h.cache.symm,
    h.nextId.symm, h.selectedModules.symm, h.device.symm⟩

theorem trans (hst : SameSources view s t) (htu : SameSources view t u) : SameSources view s u :=
  ⟨⟨htu.bench.tools.trans hst.bench.tools, htu.bench.storage.trans hst.bench.storage⟩,
    htu.subsystem.trans hst.subsystem, htu.resources.trans hst.resources,
    htu.cache.trans hst.cache, htu.nextId.trans hst.nextId,
    htu.selectedModules.trans hst.selectedModules, htu.device.trans hst.device⟩

theorem settings (h : SameSources view s t) : t.settings = s.settings :=
  congrArg Subsystem.settings h.subsystem

theorem isInstrumenting (h : SameSources view s t) : t.isInstrumenting = s.isInstrumenting :=
  congrArg Subsystem.isInstrumenting h.subsystem

end SameSources

/-- Two states that creations are prepared from in the same way, and in which the device has created
the same since some earlier point. -/
structure InStep {γ : Type} (view : P.DeviceState → γ) (older older' : List DeviceCall)
    (s t : Instrumentor P.audited) : Prop extends SameSources view s t where
  calls : SameCalls DeviceCall.asksToCreate older older' s.calls t.calls

namespace InStep

variable {γ : Type} {view : P.DeviceState → γ} {older older' : List DeviceCall}
  {s t : Instrumentor P.audited}

theorem record (h : InStep view older older' s t) (entry entry' : Entry) :
    InStep view older older' (s.record entry) (t.record entry') :=
  { h with bench := ⟨h.bench.tools, h.bench.storage⟩ }

theorem internalError (h : InStep view older older' s t)
    (location location' message message' : String) :
    InStep view older older' (s.internalError location message)
      (t.internalError location' message') :=
  { h with
    bench := ⟨h.bench.tools, h.bench.storage⟩
    subsystem := congrArg Subsystem.disable h.subsystem }

theorem createModule (hview : P.device.AnswersBy view) (h : InStep view older older' s t)
    (code : Code) :
    SameAnswer (InStep view older older') (s.createModule code) (t.createModule code) := by
  obtain ⟨hvalue, hstate⟩ := hview.createModule code h.device
  refine ⟨hvalue, { h with
    bench := ⟨h.bench.tools, h.bench.storage⟩
    device := hstate
    calls := ?_ }⟩
  rw [calls_createModule, calls_createModule, show (t.createModule code).1 = _ from hvalue]
  exact h.calls.cons _ rfl

theorem createLibrary (hview : P.device.AnswersBy view) (h : InStep view older older' s t)
    (info : GraphicsInfo) :
    SameAnswer (InStep view older older') (s.createLibrary info) (t.createLibrary info) := by
  obtain ⟨hvalue, hstate⟩ := hview.createLibrary info h.device
  refine ⟨hvalue, { h with
    bench := ⟨h.bench.tools, h.bench.storage⟩
    device := hstate
    calls := ?_ }⟩
  rw [calls_createLibrary, calls_createLibrary, show (t.createLibrary info).1 = _ from hvalue]
  exact h.calls.cons _ rfl

theorem identify (h : InStep view older older' s t) (code : Code) :
    SameAnswer (InStep view older older') (s.identify code) (t.identify code) := by
  unfold Instrumentor.identify
  rw [h.settings, h.nextId]
  split
  · exact ⟨rfl, h⟩
  · exact ⟨rfl, { h with nextId := rfl }⟩

theorem cached?_eq (h : InStep view older older' s t) (id : ShaderId) :
    t.cached? id = s.cached? id := by
  unfold Instrumentor.cached?
  rw [h.settings, h.cache]

theorem keep (h : InStep view older older' s t) (id : ShaderId) (words : Code) :
    InStep view older older' (s.keep id words) (t.keep id words) := by
  unfold Instrumentor.keep
  rw [h.settings, h.cache]
  split
  · exact { h with cache := rfl }
  · exact h

theorem runPasses (h : InStep view older older' s t) (resources : DeviceResources) (id : ShaderId)
    (code : Code) (bindless : Bool) (location location' : String) :
    SameAnswer (InStep view older older') (s.runPasses resources id code bindless location)
      (t.runPasses resources id code bindless location') := by
  have hplan : t.passPlan resources = s.passPlan resources := by
    unfold passPlan
    rw [h.settings]
  have hran := PassPlan.sameAnswer_run h.bench (s.passPlan resources) code id bindless
  have hbench : InStep view older older'
      { s with toWorkbench := ((s.passPlan resources).run s.toWorkbench code id bindless).2 }
      { t with toWorkbench := ((s.passPlan resources).run t.toWorkbench code id bindless).2 } :=
    { h with bench := hran.state }
  simp only [Instrumentor.runPasses, hplan, hran.value]
  split
  · exact ⟨rfl, hbench.keep id _⟩
  · exact ⟨rfl, hbench⟩
  · exact ⟨rfl, hbench⟩
  · exact ⟨rfl, hbench.internalError _ _ _ _⟩

theorem instrumentCode (h : InStep view older older' s t) (code : Code) (bindless : Bool)
    (location location' : String) :
    SameAnswer (InStep view older older') (s.instrumentCode code bindless location)
      (t.instrumentCode code bindless location') := by
  have hidentified := h.identify code
  simp only [Instrumentor.instrumentCode, h.resources, h.isInstrumenting]
  split
  · exact ⟨rfl, h⟩
  · next resources _ =>
    split
    · simp only [hidentified.value, hidentified.state.cached?_eq]
      split
      · exact ⟨rfl, hidentified.state.record _ _⟩
      · exact hidentified.state.runPasses resources _ code bindless location location'
    · exact ⟨rfl, h⟩

theorem isSelected_eq (h : InStep view older older' s t) (stage : ShaderStage) :
    t.isSelected stage = s.isSelected stage := by
  unfold Instrumentor.isSelected
  rw [h.settings, h.selectedModules]

theorem placeCode (hview : P.device.AnswersBy view) (h : InStep view older older' s t)
    (site : StageSite) (location : String) (stage : ShaderStage) (index : Nat)
    (made : InstrumentedCode) :
    SameAnswer (InStep view older older') (placeCode site s stage index made)
      (placeCode { site with location } t stage index made) := by
  have hcreated := h.createModule hview made.code
  simp only [Instrumentor.placeCode, hcreated.value]
  split
  · split
    · exact ⟨rfl, hcreated.state⟩
    · exact ⟨rfl, hcreated.state.internalError _ _ _ _⟩
  · split
    · exact ⟨rfl, h⟩
    · exact ⟨rfl, h.record _ _⟩

theorem instrumentStage (hview : P.device.AnswersBy view) (h : InStep view older older' s t)
    (site : StageSite) (location : String) (indexed : ShaderStage × Nat) :
    SameAnswer (InStep view older older') (instrumentStage site s indexed)
      (instrumentStage { site with location } t indexed) := by
  simp only [Instrumentor.instrumentStage, h.isSelected_eq]
  split
  · exact ⟨rfl, h⟩
  · next code _ =>
    have hattempt := h.instrumentCode code site.bindless site.location location
    split
    · rw [hattempt.value]
      split
      · exact ⟨rfl, hattempt.state⟩
      · exact hattempt.state.placeCode hview site location indexed.1 indexed.2 _
    · exact ⟨rfl, h⟩

theorem instrumentStages (hview : P.device.AnswersBy view) (h : InStep view older older' s t)
    (site : StageSite) (location : String) (stages : List ShaderStage) :
    SameAnswer (InStep view older older') (instrumentStages site s stages)
      (instrumentStages { site with location } t stages) := by
  refine SameAnswer.thread (S := Eq) ?_ (List.forall₂_refl _) h
  rintro s t indexed _ h rfl
  exact h.instrumentStage hview site location indexed

/-- Two states in which the libraries of a pipeline are linked in the same way. -/
structure Link (view : P.DeviceState → γ) (older older' : List DeviceCall)
    (link other : LinkState P.audited) : Prop where
  objects : other.objects = link.objects
  state : InStep view older older' link.state other.state

theorem relinkLibrary (hview : P.device.AnswersBy view) {link other : LinkState P.audited}
    (h : Link view older older' link other) (site : StageSite) (location : String)
    (library : GraphicsLibrary) :
    SameAnswer (Link view older older') (relinkLibrary site link library)
      (relinkLibrary { site with location } other library) := by
  have hstaged := h.state.instrumentStages hview { site with library := some library.handle }
    location library.info.stages
  have hcreated := hstaged.state.createLibrary hview { library.info with
    stages := (Instrumentor.instrumentStages { site with library := some library.handle } link.state
      library.info.stages).1.map StageOutcome.stage }
  simp only [Instrumentor.relinkLibrary, hstaged.value, hcreated.value, h.objects]
  split
  · exact ⟨rfl, h⟩
  · split
    · exact ⟨rfl, rfl, hcreated.state⟩
    · exact ⟨rfl, rfl, hcreated.state.internalError _ _ _ _⟩

theorem instrumentPipeline (hview : P.device.AnswersBy view) (h : InStep view older older' s t)
    (location location' : String) (info : PipelineInfo) :
    SameAnswer (InStep view older older') (instrumentPipeline location s info)
      (instrumentPipeline location' t info) := by
  have hlinked : SameAnswer (Link view older older')
      (thread (Instrumentor.relinkLibrary ⟨none, info.isBindless, location⟩) ⟨{}, s⟩ info.libraries)
      (thread (Instrumentor.relinkLibrary ⟨none, info.isBindless, location'⟩) ⟨{}, t⟩
        info.libraries) := by
    refine SameAnswer.thread (S := Eq) ?_ (List.forall₂_refl _) ⟨rfl, h⟩
    rintro link other library _ hlink rfl
    exact relinkLibrary hview hlink ⟨none, info.isBindless, location⟩ location' library
  have hstaged := hlinked.state.state.instrumentStages hview ⟨none, info.isBindless, location⟩
    location' info.stages
  simp only [Instrumentor.instrumentPipeline, hlinked.value, hlinked.state.objects, hstaged.value]
  exact ⟨rfl, hstaged.state.record _ _⟩

theorem preparePipeline (hview : P.device.AnswersBy view) (h : InStep view older older' s t)
    (slot : UInt32) (location location' : String) {indexed other : PipelineInfo × Nat}
    (hsame : other.1 = indexed.1) :
    SameAnswer (InStep view older older') (preparePipeline slot location s indexed)
      (preparePipeline slot location' t other) := by
  unfold Instrumentor.preparePipeline
  rw [hsame]
  split
  · exact h.instrumentPipeline hview _ _ indexed.1
  · exact ⟨rfl, h⟩

theorem prepareShaderObject (h : InStep view older older' s t) (reservation : Reservation)
    (call call' : String) {indexed other : ShaderObjectInfo × Nat} (hsame : other.1 = indexed.1) :
    SameAnswer (InStep view older older') (prepareShaderObject reservation call s indexed)
      (prepareShaderObject reservation call' t other) := by
  simp only [Instrumentor.prepareShaderObject, hsame]
  split
  · exact ⟨rfl, h.record _ _⟩
  · simp only [instrumentObject, h.settings]
    split
    · exact ⟨rfl, h⟩
    · have hattempt := h.instrumentCode (indexed.1.patched reservation).code indexed.1.isBindless
        (elementOf call indexed.2) (elementOf call' other.2)
      rw [hattempt.value]
      split <;> exact ⟨rfl, hattempt.state⟩

end InStep

/-! ### Recording in two states -/

theorem SameHoldings.symm {s t : Instrumentor P} (h : SameHoldings s t) : SameHoldings t s :=
  ⟨h.settings.symm, h.registry.symm, h.pipelines.symm, h.shaderObjects.symm, h.deferred.symm⟩

/-- Two states that know the same of the objects that exist, and in which the device has destroyed
the same since some earlier point. -/
structure RecordsInStep (older older' : List DeviceCall) (s t : Instrumentor P.audited) :
    Prop extends SameHoldings s t where
  calls : SameCalls (fun call ↦ !call.asksToCreate) older older' s.calls t.calls

namespace RecordsInStep

variable {older older' : List DeviceCall} {s t : Instrumentor P.audited}

theorem destroyModule (h : RecordsInStep older older' s t) (module : ModuleHandle) :
    RecordsInStep older older' (s.destroyModule module) (t.destroyModule module) :=
  { h with calls := h.calls.cons (.destroyModule module) rfl }

theorem destroyLibrary (h : RecordsInStep older older' s t) (library : PipelineHandle) :
    RecordsInStep older older' (s.destroyLibrary library) (t.destroyLibrary library) :=
  { h with calls := h.calls.cons (.destroyPipeline library) rfl }

theorem release (h : RecordsInStep older older' s t) (objects : PipelineObjects) :
    RecordsInStep older older' (s.release objects) (t.release objects) := by
  unfold Instrumentor.release
  refine List.foldl_rel ?_ fun library _ _ _ hstep ↦ hstep.destroyLibrary library
  exact List.foldl_rel h fun module _ _ _ hstep ↦ hstep.destroyModule module

theorem register (h : RecordsInStep older older' s t)
    (entries : List (ShaderId × InstrumentedShader)) :
    RecordsInStep older older' (s.register entries) (t.register entries) := by
  have hregistry : (t.register entries).registry = (s.register entries).registry := by
    unfold Instrumentor.register
    rw [h.registry]
  exact { h with registry := hregistry }

theorem recordPipeline (h : RecordsInStep older older' s t) (registering : Bool)
    (draft : PipelineDraft) (pipeline : PipelineHandle) :
    RecordsInStep older older' (recordPipeline registering s draft pipeline)
      (recordPipeline registering t draft pipeline) := by
  simp only [Instrumentor.recordPipeline]
  split
  · exact h.release draft.objects
  · generalize (if registering then draft.records.filterMap (StageRecord.entry? pipeline) else [])
      = entries
    have hregistered := h.register entries
    split
    · exact hregistered
    · exact { hregistered with
        pipelines := congrArg (Table.insert · pipeline _) hregistered.pipelines }

theorem recordAll (h : RecordsInStep older older' s t) (registering : Bool)
    (drafts : List PipelineDraft) (pipelines : List PipelineHandle) :
    RecordsInStep older older' (recordAll registering s drafts pipelines)
      (recordAll registering t drafts pipelines) := by
  induction drafts generalizing s t pipelines with
  | nil => exact h
  | cons draft rest ih => exact ih (h.recordPipeline registering draft _) pipelines.tail

theorem recordShaderObject (h : RecordsInStep older older' s t) (draft : ShaderObjectDraft)
    (object : ShaderObjectHandle) :
    RecordsInStep older older' (s.recordShaderObject draft object)
      (t.recordShaderObject draft object) := by
  unfold Instrumentor.recordShaderObject
  split
  · exact h
  · split
    · exact h
    · exact { h with
        registry := congrArg (Table.insert · _ _) h.registry
        shaderObjects := congrArg (KeySet.add · object) h.shaderObjects }

theorem recordShaderObjects (h : RecordsInStep older older' s t) (drafts : List ShaderObjectDraft)
    (objects : List ShaderObjectHandle) :
    RecordsInStep older older' (s.recordShaderObjects drafts objects)
      (t.recordShaderObjects drafts objects) := by
  induction drafts generalizing s t objects with
  | nil => exact h
  | cons draft rest ih => exact ih (h.recordShaderObject draft _) objects.tail

end RecordsInStep

end Instrumentor

end ShaderGuard
