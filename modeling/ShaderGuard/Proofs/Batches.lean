import ShaderGuard.Proofs.Lockstep
import ShaderGuard.Proofs.OfferedCode
import ShaderGuard.Simulation.Platform

/-!
# Creating in one call or in two

A call that creates several objects prepares them one by one, lets the driver create them, and
records them one by one. Cut in two, the call records the first objects before it prepares the
others. This makes no difference but in the log and in the order of creations and destructions on
the device: what is prepared does not depend on what is recorded, and what is recorded does not
depend on what is prepared later (`Instrumentor.Creates`, which says what a kind of object has to
keep to, and `Instrumentor.Creates.compose`, which cuts its calls in two). Pipelines and shader
objects keep to it (`Instrumentor.creates_pipelines`, `Instrumentor.creates_shaderObjects`), and so
their calls may be cut anywhere (`Instrumentor.batches_compose`) as long as instrumentation is not
switched off on the way. If it is, the rest of a call is still looked at, and a later call is not.
-/

set_option autoImplicit false

namespace ShaderGuard

variable {P : Platform}

namespace Instrumentor

/-- Two states that differ at most in what was logged, in what the device does not show, and in the
order in which it was asked to create on the one hand and to destroy on the other. -/
structure SameOutcome {γ : Type} (view : P.DeviceState → γ) (s t : Instrumentor P.audited) :
    Prop extends SameHoldings s t, SameSources view s t where
  creations : t.calls.filter DeviceCall.asksToCreate = s.calls.filter DeviceCall.asksToCreate
  destructions : t.calls.filter (fun call ↦ !call.asksToCreate) =
    s.calls.filter fun call ↦ !call.asksToCreate

theorem SameOutcome.refl {γ : Type} {view : P.DeviceState → γ} (s : Instrumentor P.audited) :
    SameOutcome view s s :=
  { SameHoldings.refl s, SameSources.refl s with
    creations := rfl
    destructions := rfl }

/-! ### One call or two -/

section

variable {γ α β η : Type}

/-- A way to create things whose preparation looks at nothing that is recorded of them: `step`
prepares one of them, with its place in the call, and `record` is done when they have been
created. -/
structure Creates (view : P.DeviceState → γ)
    (step : String → Instrumentor P.audited → α × Nat → β × Instrumentor P.audited)
    (record : Instrumentor P.audited → List β → List η → Instrumentor P.audited) : Prop where
  prepares : ∀ {older older' : List DeviceCall} {s t : Instrumentor P.audited} {a b : α × Nat}
    (location location' : String), InStep view older older' s t → b.1 = a.1 →
      SameAnswer (InStep view older older') (step location s a) (step location' t b)
  holdings : ∀ location s a, SameHoldings s (step location s a).2
  choice : ∀ location s a, SameChoice s (step location s a).2
  off : ∀ location s a, s.isInstrumenting = false → (step location s a).2.isInstrumenting = false
  records : ∀ {older older' : List DeviceCall} {s t : Instrumentor P.audited} (drafts : List β)
    (handles : List η), RecordsInStep older older' s t →
      RecordsInStep older older' (record s drafts handles) (record t drafts handles)
  sources : ∀ s drafts handles, SameSources view s (record s drafts handles)
  append : ∀ s (first second : List β) (handles more : List η), handles.length = first.length →
    record s (first ++ second) (handles ++ more) = record (record s first handles) second more

namespace Creates

variable {view : P.DeviceState → γ}
  {step : String → Instrumentor P.audited → α × Nat → β × Instrumentor P.audited}
  {record : Instrumentor P.audited → List β → List η → Instrumentor P.audited}

theorem prepares_thread (h : Creates view step record) {older older' : List DeviceCall}
    {s t : Instrumentor P.audited} (hsame : InStep view older older' s t)
    (location location' : String) (xs : List α) (first second : Nat) :
    SameAnswer (InStep view older older') (thread (step location) s (xs.zipIdx first))
      (thread (step location') t (xs.zipIdx second)) := by
  refine SameAnswer.thread ?_ (forall₂_zipIdx xs first second) hsame
  intro s t a b hst hab
  exact h.prepares location location' hst hab

theorem holdings_thread (h : Creates view step record) (location : String)
    (s : Instrumentor P.audited) (xs : List (α × Nat)) :
    SameHoldings s (thread (step location) s xs).2 :=
  thread_invariant (step location) (SameHoldings s)
    (fun t a hst ↦ hst.trans (h.holdings location t a)) s xs (.refl s)

/-- If shaders are rewritten at the end they were before. -/
theorem isInstrumenting_of_thread (h : Creates view step record) {location : String}
    {s : Instrumentor P.audited} {xs : List (α × Nat)}
    (hlast : (thread (step location) s xs).2.isInstrumenting = true) :
    s.isInstrumenting = true := by
  by_contra hoff
  have hstays := thread_invariant (step location) (fun t ↦ t.isInstrumenting = false)
    (fun t a ↦ h.off location t a) s xs (Bool.eq_false_iff.mpr hoff)
  exact Bool.false_ne_true (hstays.symm.trans hlast)

/-- What is prepared behind others is prepared in the same way when these have been recorded. -/
theorem sameAnswer_later (h : Creates view step record) (s : Instrumentor P.audited)
    (xs ys : List α) (ps : List η) (location first second : String) :
    let before := thread (step location) s xs.zipIdx
    let behind := thread (step location) before.2 (ys.zipIdx xs.length)
    let apart := thread (step first) s xs.zipIdx
    let recorded := record apart.2 apart.1 ps
    let later := thread (step second) recorded ys.zipIdx
    SameAnswer (InStep view s.calls s.calls) before apart ∧ SameSources view before.2 recorded ∧
      SameAnswer (InStep view before.2.calls recorded.calls) behind later := by
  intro before behind apart recorded later
  have hself : InStep view s.calls s.calls s s := ⟨.refl s, .refl _ _ _⟩
  have hapart : SameAnswer (InStep view s.calls s.calls) before apart :=
    h.prepares_thread hself location first xs 0 0
  have hrecorded : SameSources view before.2 recorded :=
    hapart.state.toSameSources.trans (h.sources apart.2 apart.1 ps)
  exact ⟨hapart, hrecorded,
    h.prepares_thread ⟨hrecorded, .refl _ _ _⟩ location second ys xs.length 0⟩

/-- It makes no difference whether `ps` are recorded before `ys` are prepared or after. -/
theorem sameOutcome (h : Creates view step record) (s : Instrumentor P.audited) (xs ys : List α)
    {ps : List η} (qs : List η) (hlength : ps.length = xs.length)
    (location first second : String) :
    let before := thread (step location) s xs.zipIdx
    let behind := thread (step location) before.2 (ys.zipIdx xs.length)
    let apart := thread (step first) s xs.zipIdx
    let recorded := record apart.2 apart.1 ps
    let later := thread (step second) recorded ys.zipIdx
    SameOutcome view (record behind.2 (before.1 ++ behind.1) (ps ++ qs))
      (record later.2 later.1 qs) := by
  intro before behind apart recorded later
  obtain ⟨hapart, -, hlater⟩ := h.sameAnswer_later s xs ys ps location first second
  have hdrafts : ps.length = before.1.length := by
    rw [length_thread, List.length_zipIdx, hlength]
  have hbehind : SameHoldings s behind.2 :=
    (h.holdings_thread location s _).trans (h.holdings_thread location before.2 _)
  have hfirst : RecordsInStep behind.2.calls apart.2.calls (record behind.2 before.1 ps)
      (record apart.2 before.1 ps) :=
    h.records before.1 ps ⟨hbehind.symm.trans (h.holdings_thread first s _), .refl _ _ _⟩
  rw [h.append _ _ _ _ _ hdrafts, show later.1 = behind.1 from hlater.value]
  have hrecorded : recorded = record apart.2 before.1 ps :=
    congrArg (record apart.2 · ps) hapart.value
  rw [← hrecorded] at hfirst
  have hsecond : RecordsInStep (record behind.2 before.1 ps).calls later.2.calls
      (record (record behind.2 before.1 ps) behind.1 qs) (record later.2 behind.1 qs) :=
    h.records behind.1 qs ⟨hfirst.toSameHoldings.trans (h.holdings_thread second recorded _),
      .refl _ _ _⟩
  have hsources : SameSources view (record (record behind.2 before.1 ps) behind.1 qs)
      (record later.2 behind.1 qs) := by
    have hwhole := (h.sources behind.2 before.1 ps).trans (h.sources _ behind.1 qs)
    exact hwhole.symm.trans (hlater.state.toSameSources.trans (h.sources later.2 behind.1 qs))
  -- The calls, the latest first: those for `qs`, then those for `ps` and those for `ys`.
  obtain ⟨made, -, hbefore, hapartCalls⟩ := hapart.state.calls
  obtain ⟨created, hcreated, hbehindCalls, hlaterCalls⟩ := hlater.state.calls
  obtain ⟨destroyed, hdestroyed, hfirstCalls, hrecordedCalls⟩ := hfirst.calls
  obtain ⟨last, -, hwholeCalls, htailCalls⟩ := hsecond.calls
  obtain ⟨hcreations, hdestructions⟩ :=
    filter_calls_swap hdestroyed hcreated last (made ++ s.calls)
  have hwhole : (record (record behind.2 before.1 ps) behind.1 qs).calls =
      last ++ (destroyed ++ (created ++ (made ++ s.calls))) := by
    rw [hwholeCalls, hfirstCalls, hbehindCalls, hbefore]
  have htail : (record later.2 behind.1 qs).calls =
      last ++ (created ++ (destroyed ++ (made ++ s.calls))) := by
    rw [htailCalls, hlaterCalls, hrecordedCalls, hapartCalls]
  refine { hsecond.toSameHoldings, hsources with creations := ?_, destructions := ?_ }
  · rw [hwhole, htail, hcreations]
  · rw [hwhole, htail, hdestructions]

/-- Assumes: that shaders are rewritten, also at the end of a call, and that wherever this is so and
the device is set up as it is now, a call prepares one thing after the other and records them in
the end. Then the call may be cut in two. -/
theorem compose (h : Creates view step record) {s : Instrumentor P.audited}
    {create : Instrumentor P.audited → List α → String → List η → List β × Instrumentor P.audited}
    (hcreate : ∀ {t infos location}, t.resources = s.resources → t.isInstrumenting = true →
      (thread (step location) t infos.zipIdx).2.isInstrumenting = true → ∀ handles,
        create t infos location handles =
          let prepared := thread (step location) t infos.zipIdx
          (prepared.1, record prepared.2 prepared.1 handles))
    (hactive : s.isInstrumenting = true) (xs ys : List α) {ps : List η} (qs : List η)
    (hlength : ps.length = xs.length) {location : String}
    (hquiet : (thread (step location) s (xs ++ ys).zipIdx).2.isInstrumenting = true)
    (first second : String) :
    let whole := create s (xs ++ ys) location (ps ++ qs)
    let head := create s xs first ps
    let tail := create head.2 ys second qs
    head.1 ++ tail.1 = whole.1 ∧ SameOutcome view whole.2 tail.2 := by
  intro whole head tail
  let before := thread (step location) s xs.zipIdx
  let behind := thread (step location) before.2 (ys.zipIdx xs.length)
  let apart := thread (step first) s xs.zipIdx
  let recorded := record apart.2 apart.1 ps
  let later := thread (step second) recorded ys.zipIdx
  obtain ⟨hapart, hrecorded, hlater⟩ : SameAnswer (InStep view s.calls s.calls) before apart ∧
      SameSources view before.2 recorded ∧
      SameAnswer (InStep view before.2.calls recorded.calls) behind later :=
    h.sameAnswer_later s xs ys ps location first second
  have hsplit : thread (step location) s (xs ++ ys).zipIdx =
      (before.1 ++ behind.1, behind.2) := by
    rw [List.zipIdx_append, Nat.zero_add]
    exact thread_append (step location) s xs.zipIdx (ys.zipIdx xs.length)
  have hbehind : behind.2.isInstrumenting = true := by rwa [hsplit] at hquiet
  have hbefore : before.2.isInstrumenting = true := h.isInstrumenting_of_thread hbehind
  have hwhole : whole = (before.1 ++ behind.1,
      record behind.2 (before.1 ++ behind.1) (ps ++ qs)) := by
    have hone := hcreate rfl hactive hquiet (ps ++ qs)
    rw [hsplit] at hone
    exact hone
  have hhead : head = (apart.1, recorded) :=
    hcreate rfl hactive (hapart.state.isInstrumenting.trans hbefore) ps
  have htail : tail = (later.1, record later.2 later.1 qs) := by
    have hchoice : SameChoice s before.2 := thread_invariant (step location) (SameChoice s)
      (fun t a hst ↦ hst.trans (h.choice location t a)) s xs.zipIdx (.refl s)
    have hready : recorded.resources = s.resources :=
      hrecorded.resources.trans hchoice.resources
    show create head.2 ys second qs = _
    rw [hhead]
    exact hcreate hready (hrecorded.isInstrumenting.trans hbefore)
      (hlater.state.isInstrumenting.trans hbehind) qs
  rw [hwhole, hhead, htail]
  refine ⟨?_, h.sameOutcome s xs ys qs hlength location first second⟩
  show apart.1 ++ later.1 = before.1 ++ behind.1
  rw [hapart.value, hlater.value]

end Creates

end

/-- Recording pipelines changes nothing that creations are prepared from. -/
theorem sameSources_recordAll {γ : Type} {view : P.DeviceState → γ}
    (hview : P.device.AnswersBy view) (registering : Bool) (s : Instrumentor P.audited)
    (drafts : List PipelineDraft) (pipelines : List PipelineHandle) :
    SameSources view s (recordAll registering s drafts pipelines) := by
  have hshown : Bookkeeping fun (s t : Instrumentor P.audited) ↦
      view t.device.1 = view s.device.1 :=
    { refl := fun _ ↦ rfl
      trans := fun hst htu ↦ htu.trans hst
      destroyModule := fun s module ↦ hview.destroyModule module s.device.1
      destroyLibrary := fun s library ↦ hview.destroyPipeline library s.device.1
      note := fun _ _ _ _ _ ↦ rfl }
  have hdevice := hshown.quietly.recordAll registering s drafts pipelines
  obtain ⟨log, device, registry, recorded, deferred, hafter⟩ :=
    OnlyRecords.bookkeeping.quietly.recordAll registering s drafts pipelines
  rw [hafter] at hdevice ⊢
  exact ⟨⟨rfl, rfl⟩, rfl, rfl, rfl, rfl, rfl, hdevice⟩

theorem creates_pipelines {γ : Type} {view : P.DeviceState → γ} (hview : P.device.AnswersBy view)
    (slot : UInt32) : Creates view (preparePipeline slot) (recordAll true) where
  prepares location location' hst hab := hst.preparePipeline hview slot location location' hab
  holdings := SameHoldings.rewrites.preparePipeline slot
  choice := SameChoice.rewrites.preparePipeline slot
  off := off_of_rewrites.preparePipeline slot
  records drafts handles hst := hst.recordAll true drafts handles
  sources := sameSources_recordAll hview true
  append := recordAll_append true

theorem recordShaderObjects_append (s : Instrumentor P) (first second : List ShaderObjectDraft)
    (objects more : List ShaderObjectHandle) (h : objects.length = first.length) :
    s.recordShaderObjects (first ++ second) (objects ++ more) =
      (s.recordShaderObjects first objects).recordShaderObjects second more := by
  induction first generalizing s objects with
  | nil =>
    obtain rfl := List.eq_nil_of_length_eq_zero h
    rfl
  | cons draft rest ih =>
    match objects, h with
    | object :: tail, h =>
      simp only [List.cons_append, recordShaderObjects, List.headD_cons, List.tail_cons]
      exact ih _ tail (Nat.succ.inj h)

theorem creates_shaderObjects {γ : Type} (view : P.DeviceState → γ) (reservation : Reservation) :
    Creates view (prepareShaderObject reservation) recordShaderObjects where
  prepares call call' hst hab := hst.prepareShaderObject reservation call call' hab
  holdings := SameHoldings.rewrites.prepareShaderObject reservation
  choice := SameChoice.rewrites.prepareShaderObject reservation
  off := off_of_rewrites.prepareShaderObject reservation
  records drafts handles hst := hst.recordShaderObjects drafts handles
  sources s drafts handles := by
    obtain ⟨registry, shaderObjects, hafter⟩ := exists_recordShaderObjects_eq s drafts handles
    rw [hafter]
    exact ⟨⟨rfl, rfl⟩, rfl, rfl, rfl, rfl, rfl, rfl⟩
  append := recordShaderObjects_append

/-! ### Whole calls -/

/-- What becomes of pipelines that are created in one call: what is handed to the driver in their
place, and the state when they have been created. -/
def createPipelines (s : Instrumentor P) (infos : List PipelineInfo) (location : String)
    (pipelines : List PipelineHandle) : List PipelineDraft × Instrumentor P :=
  let prepared := s.preparePipelines infos location
  (prepared.1, prepared.2.pipelinesCreated prepared.1 pipelines)

/-- What becomes of shader objects that are created in one call. -/
def createShaderObjects (s : Instrumentor P) (infos : List ShaderObjectInfo) (call : String)
    (objects : List ShaderObjectHandle) : List ShaderObjectDraft × Instrumentor P :=
  let prepared := s.prepareShaderObjects infos call
  (prepared.1, prepared.2.shaderObjectsCreated prepared.1 objects)

/-- Pipelines that are left alone are recorded without effect. -/
theorem recordAll_untouched (registering : Bool) (s : Instrumentor P) (infos : List PipelineInfo)
    (pipelines : List PipelineHandle) :
    recordAll registering s (infos.map fun info ↦ { info }) pipelines = s := by
  have hone (info : PipelineInfo) (pipeline : PipelineHandle) :
      recordPipeline registering s { info } pipeline = s := by
    unfold recordPipeline
    cases registering <;> split <;> rfl
  induction infos generalizing pipelines with
  | nil => rfl
  | cons info rest ih =>
    rw [List.map_cons, recordAll, hone]
    exact ih pipelines.tail

theorem recordShaderObjects_untouched (s : Instrumentor P) (infos : List ShaderObjectInfo)
    (objects : List ShaderObjectHandle) :
    s.recordShaderObjects (infos.map fun info ↦ { info }) objects = s := by
  induction infos generalizing objects with
  | nil => rfl
  | cons info rest ih => exact ih objects.tail

/-- Where no device is set up, or shaders are not rewritten, a call has no effect. -/
theorem createPipelines_of_spared {s : Instrumentor P}
    (h : s.reservedSlot = none ∨ s.isInstrumenting = false) (infos : List PipelineInfo)
    (location : String) (pipelines : List PipelineHandle) :
    s.createPipelines infos location pipelines = (infos.map fun info ↦ { info }, s) := by
  unfold createPipelines pipelinesCreated
  simp only [preparePipelines_of_spared h, recordAll_untouched]

theorem createShaderObjects_of_spared {s : Instrumentor P}
    (h : s.reservation = none ∨ s.isInstrumenting = false) (infos : List ShaderObjectInfo)
    (call : String) (objects : List ShaderObjectHandle) :
    s.createShaderObjects infos call objects = (infos.map fun info ↦ { info }, s) := by
  unfold createShaderObjects shaderObjectsCreated
  simp only [prepareShaderObjects_of_spared h, recordShaderObjects_untouched, ite_self]

/-- Assumes: a device that is set up, and a call in which instrumentation is not switched off. The
pipelines are prepared one by one and recorded in the end. -/
theorem createPipelines_eq {s : Instrumentor P} {slot : UInt32}
    (hslot : s.reservedSlot = some slot) (hactive : s.isInstrumenting = true)
    {infos : List PipelineInfo} {location : String}
    (hquiet : (thread (preparePipeline slot location) s infos.zipIdx).2.isInstrumenting = true)
    (pipelines : List PipelineHandle) :
    s.createPipelines infos location pipelines =
      let prepared := thread (preparePipeline slot location) s infos.zipIdx
      (prepared.1, recordAll true prepared.2 prepared.1 pipelines) := by
  unfold createPipelines preparePipelines pipelinesCreated
  simp only [hslot, if_pos hactive, hquiet]

theorem createShaderObjects_eq {s : Instrumentor P} {reservation : Reservation}
    (hready : s.reservation = some reservation) (hactive : s.isInstrumenting = true)
    {infos : List ShaderObjectInfo} {call : String}
    (hquiet : (thread (prepareShaderObject reservation call) s infos.zipIdx).2.isInstrumenting =
      true) (objects : List ShaderObjectHandle) :
    s.createShaderObjects infos call objects =
      let prepared := thread (prepareShaderObject reservation call) s infos.zipIdx
      (prepared.1, prepared.2.recordShaderObjects prepared.1 objects) := by
  unfold createShaderObjects prepareShaderObjects shaderObjectsCreated
  simp only [hready, if_pos hactive, if_pos hquiet]

/-- Assumes: a device whose answers come of what it has created, and a call for pipelines in which
instrumentation is not switched off. -/
theorem createPipelines_append {γ : Type} {view : P.DeviceState → γ}
    (hview : P.device.AnswersBy view) (s : Instrumentor P.audited) (xs ys : List PipelineInfo)
    {ps : List PipelineHandle} (qs : List PipelineHandle) (hlength : ps.length = xs.length)
    {location : String}
    (hquiet : (s.preparePipelines (xs ++ ys) location).2.subsystem = s.subsystem)
    (first second : String) :
    let whole := s.createPipelines (xs ++ ys) location (ps ++ qs)
    let head := s.createPipelines xs first ps
    let tail := head.2.createPipelines ys second qs
    head.1 ++ tail.1 = whole.1 ∧ SameOutcome view whole.2 tail.2 := by
  by_cases hspared : s.reservedSlot = none ∨ s.isInstrumenting = false
  · simp only [createPipelines_of_spared hspared, List.map_append, true_and]
    exact .refl s
  · obtain ⟨hready, hon⟩ := not_or.mp hspared
    obtain ⟨slot, hslot⟩ := Option.ne_none_iff_exists'.mp hready
    have hactive : s.isInstrumenting = true := eq_true_of_ne_false hon
    have hlast : (s.preparePipelines (xs ++ ys) location).2.isInstrumenting = true :=
      (congrArg Subsystem.isInstrumenting hquiet).trans hactive
    simp only [preparePipelines, hslot, if_pos hactive] at hlast
    refine (creates_pipelines hview slot).compose ?_ hactive xs ys qs hlength hlast first second
    intro t infos location hresources hactive hquiet pipelines
    have hthere : t.reservedSlot = some slot := by
      rw [← hslot]
      unfold reservedSlot
      rw [hresources]
    exact createPipelines_eq hthere hactive hquiet pipelines

/-- Assumes: a call for shader objects in which instrumentation is not switched off. -/
theorem createShaderObjects_append {γ : Type} (view : P.DeviceState → γ)
    (s : Instrumentor P.audited) (xs ys : List ShaderObjectInfo) {ps : List ShaderObjectHandle}
    (qs : List ShaderObjectHandle) (hlength : ps.length = xs.length) {call : String}
    (hquiet : (s.prepareShaderObjects (xs ++ ys) call).2.subsystem = s.subsystem)
    (first second : String) :
    let whole := s.createShaderObjects (xs ++ ys) call (ps ++ qs)
    let head := s.createShaderObjects xs first ps
    let tail := head.2.createShaderObjects ys second qs
    head.1 ++ tail.1 = whole.1 ∧ SameOutcome view whole.2 tail.2 := by
  by_cases hspared : s.reservation = none ∨ s.isInstrumenting = false
  · simp only [createShaderObjects_of_spared hspared, List.map_append, true_and]
    exact .refl s
  · obtain ⟨hnone, hon⟩ := not_or.mp hspared
    obtain ⟨reservation, hready⟩ := Option.ne_none_iff_exists'.mp hnone
    have hactive : s.isInstrumenting = true := eq_true_of_ne_false hon
    have hlast : (s.prepareShaderObjects (xs ++ ys) call).2.isInstrumenting = true :=
      (congrArg Subsystem.isInstrumenting hquiet).trans hactive
    simp only [prepareShaderObjects, hready, if_pos hactive] at hlast
    refine (creates_shaderObjects view reservation).compose ?_ hactive xs ys qs hlength hlast first
      second
    intro t infos call hresources hactive hquiet objects
    have hthere : t.reservation = some reservation := by
      rw [← hready]
      unfold Instrumentor.reservation
      rw [hresources]
    exact createShaderObjects_eq hthere hactive hquiet objects

/-- Assumes: a device whose answers come of what it has created. In every state, whether the hooks
reach it or not, a call for pipelines may be cut in two if instrumentation is not switched off in
it. When the first pipelines are prepared and recorded before the others are prepared, the same
create infos with the same metadata are handed to the driver, in the same order, and all is left as
the one call leaves it, but for the log. The device is asked to create the same objects in the same
order, with the same answers, and to destroy the same ones in the same order. So it is for calls for
shader objects. The locations that the calls are told of are of no account. -/
theorem batches_compose {γ : Type} {view : P.DeviceState → γ} (hview : P.device.AnswersBy view)
    (s : Instrumentor P.audited) (location first second : String) :
    (∀ (xs ys : List PipelineInfo) (ps qs : List PipelineHandle), ps.length = xs.length →
      (s.preparePipelines (xs ++ ys) location).2.subsystem = s.subsystem →
      let whole := s.createPipelines (xs ++ ys) location (ps ++ qs)
      let head := s.createPipelines xs first ps
      let tail := head.2.createPipelines ys second qs
      head.1 ++ tail.1 = whole.1 ∧ SameOutcome view whole.2 tail.2) ∧
    ∀ (xs ys : List ShaderObjectInfo) (ps qs : List ShaderObjectHandle), ps.length = xs.length →
      (s.prepareShaderObjects (xs ++ ys) location).2.subsystem = s.subsystem →
      let whole := s.createShaderObjects (xs ++ ys) location (ps ++ qs)
      let head := s.createShaderObjects xs first ps
      let tail := head.2.createShaderObjects ys second qs
      head.1 ++ tail.1 = whole.1 ∧ SameOutcome view whole.2 tail.2 := by
  constructor
  · intro xs ys ps qs hlength hquiet
    exact createPipelines_append hview s xs ys qs hlength hquiet first second
  · intro xs ys ps qs hlength hquiet
    exact createShaderObjects_append view s xs ys qs hlength hquiet first second

/-- What a device in memory answers to creations comes of the next handle and of the calls that
fail. -/
theorem answersBy_world :
    Simulation.World.device.AnswersBy fun world ↦ (world.next, world.failing) := by
  have hreply {kind : ObjectKind} (name : String) (argument : Simulation.Argument)
      {s t : Simulation.World} (h : (t.next, t.failing) = (s.next, s.failing)) :
      let left : Reply Simulation.World (Except Fault (Handle kind)) := s.reply name argument
      let right : Reply Simulation.World (Except Fault (Handle kind)) := t.reply name argument
      right.value = left.value ∧
        (right.state.next, right.state.failing) = (left.state.next, left.state.failing) := by
    obtain ⟨hnext, hfailing⟩ := Prod.mk.inj h
    simp only [Simulation.World.reply, Simulation.World.create, hfailing]
    cases s.failing.lookup name with
    | none =>
      simp only [hnext, true_and]
      exact congrArg (_, ·) hfailing
    | some code => exact ⟨rfl, h⟩
  exact
    { createModule := fun code _ _ h ↦ hreply _ (.code code) h
      createLibrary := fun info _ _ h ↦ hreply _ (.library info) h
      destroyModule := fun _ _ ↦ rfl
      destroyPipeline := fun _ _ ↦ rfl }

/-- A compute pipeline whose code, a header and an access to a descriptor array, is in a module. -/
def guardedModule (module : ModuleHandle) : PipelineInfo :=
  .compute
    { flags := .empty
      stage := ⟨.empty, module, some [0x07230203, 0x10300, 0, 16, 0, Simulation.arrayAccess], none,
        "main"⟩
      layout := none
      activeSlots := .empty }

/-- A shader object with the same code. -/
def guardedShader : ShaderObjectInfo :=
  ⟨.empty, [0x07230203, 0x10300, 0, 16, 0, Simulation.arrayAccess], [], false, "main"⟩

/-- Of two pipelines the first can not be created. What was made for it is destroyed behind what is
made for the second one, if there is one call, and before if there are two. -/
theorem batches_compose_one_failed :
    let first : Session (Simulation.platform false {}).audited := .start {} ({}, []) [] []
    let s := (first.step (.setUpDevice {})).state
    let view := fun world : Simulation.World ↦ (world.next, world.failing)
    let whole := s.createPipelines [guardedModule ⟨21⟩, guardedModule ⟨22⟩]
      "vkCreateComputePipelines" [.null, ⟨8⟩]
    let head := s.createPipelines [guardedModule ⟨21⟩] "vkCreateComputePipelines" [.null]
    let tail := head.2.createPipelines [guardedModule ⟨22⟩] "vkCreateComputePipelines" [⟨8⟩]
    let objects := s.createShaderObjects [guardedShader, guardedShader] "vkCreateShadersEXT"
      [⟨40⟩, ⟨41⟩]
    let one := s.createShaderObjects [guardedShader] "vkCreateShadersEXT" [⟨40⟩]
    let other := one.2.createShaderObjects [guardedShader] "vkCreateShadersEXT" [⟨41⟩]
    (head.1 ++ tail.1 = whole.1 ∧ SameOutcome (P := Simulation.platform false {}) view whole.2
        tail.2) ∧
      (whole.2.calls.map DeviceCall.asksToCreate).take 3 = [false, true, true] ∧
      (tail.2.calls.map DeviceCall.asksToCreate).take 3 = [true, false, true] ∧
      one.1 ++ other.1 = objects.1 ∧
      SameOutcome (P := Simulation.platform false {}) view objects.2 other.2 := by
  intro first s view whole head tail objects one other
  have hpipelines : (s.preparePipelines [guardedModule ⟨21⟩, guardedModule ⟨22⟩]
      "vkCreateComputePipelines").2.subsystem = s.subsystem := by decide +kernel
  have hobjects : (s.prepareShaderObjects [guardedShader, guardedShader]
      "vkCreateShadersEXT").2.subsystem = s.subsystem := by decide +kernel
  obtain ⟨hcalls, _⟩ := batches_compose (P := Simulation.platform false {}) answersBy_world s
    "vkCreateComputePipelines" "vkCreateComputePipelines" "vkCreateComputePipelines"
  obtain ⟨_, hshaders⟩ := batches_compose (P := Simulation.platform false {}) answersBy_world s
    "vkCreateShadersEXT" "vkCreateShadersEXT" "vkCreateShadersEXT"
  refine ⟨hcalls [guardedModule ⟨21⟩] [guardedModule ⟨22⟩] [.null] [⟨8⟩] rfl hpipelines, ?_, ?_,
    hshaders [guardedShader] [guardedShader] [⟨40⟩] [⟨41⟩] rfl hobjects⟩
  · decide +kernel
  · decide +kernel

end Instrumentor

end ShaderGuard
