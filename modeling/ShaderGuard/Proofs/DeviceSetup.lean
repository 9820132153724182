import ShaderGuard.Proofs.CachedCode
import ShaderGuard.Proofs.Reports
import ShaderGuard.Proofs.Work
import ShaderGuard.Simulation.Platform

/-!
# Setting a device up, and tearing it down

A setup creates three layouts, one after the other, and each creation may fail. What was created
before is then destroyed again. So a setup is made whole or not at all: it may fail for any reason
and at any point, and it leaves no layout behind (`SetupCalls.account`).

An account tells which layouts are live behind the calls to a device (`Instrumentor.liveLayouts`).
It comes to nothing if a layout is destroyed that is not live, so where there is an account no
layout was destroyed twice. In a run in which no device is set up twice without being torn down in
between, the live layouts are at all times those that the device is set up with
(`Session.layoutsRecorded_run`). `Session.layouts_all_or_nothing` puts this together with what the
next setup and the next teardown do.
-/

set_option autoImplicit false

namespace ShaderGuard

/-! ### Live layouts -/

/-- A layout on a device. -/
inductive DeviceLayout where
  | set (layout : SetLayoutHandle)
  | pipelines (layout : PipelineLayoutHandle)
  deriving DecidableEq

/-- The call that destroys a layout. -/
def DeviceLayout.destruction : DeviceLayout → DeviceCall
  | .set layout => .destroySetLayout layout
  | .pipelines layout => .destroyPipelineLayout layout

/-- Strike a layout out of those that are live. -/
def DeviceLayout.strike (layout : DeviceLayout) (live : List DeviceLayout) :
    Option (List DeviceLayout) :=
  if layout ∈ live then some (live.erase layout) else none

/-- What is live behind a call: a layout that it creates comes first. -/
def DeviceCall.enter (live : List DeviceLayout) : DeviceCall → Option (List DeviceLayout)
  | .createSetLayout _ (.ok layout) => some (.set layout :: live)
  | .createPipelineLayout _ (.ok layout) => some (.pipelines layout :: live)
  | .destroySetLayout layout => (DeviceLayout.set layout).strike live
  | .destroyPipelineLayout layout => (DeviceLayout.pipelines layout).strike live
  | _ => some live

/-- Whether a call asks for an object and gets none. -/
def DeviceCall.fails : DeviceCall → Bool
  | .createSetLayout _ (.error _) | .createPipelineLayout _ (.error _) | .createModule _ (.error _)
  | .createLibrary _ (.error _) => true
  | _ => false

/-- The layouts that are live behind some calls, the first one first, if `live` were live before.
There is no account if a layout is destroyed that is not live. -/
def account (live : List DeviceLayout) (calls : List DeviceCall) : Option (List DeviceLayout) :=
  calls.foldlM DeviceCall.enter live

@[simp] theorem account_nil (live : List DeviceLayout) : account live [] = some live := rfl

@[simp] theorem account_cons (live : List DeviceLayout) (call : DeviceCall)
    (calls : List DeviceCall) :
    account live (call :: calls) = (call.enter live).bind fun next ↦ account next calls := rfl

theorem account_append (live : List DeviceLayout) (first second : List DeviceCall) :
    account live (first ++ second) = (account live first).bind fun next ↦ account next second :=
  List.foldlM_append

/-- Calls that concern no layout leave the account as it is. -/
theorem enter_of_besidesLayouts {call : DeviceCall} (h : call.besidesLayouts = true)
    (live : List DeviceLayout) : call.enter live = some live := by
  cases call <;> first | rfl | cases h

/-- The layout that was created last may be struck out. -/
@[simp] theorem strike_cons_self (layout : DeviceLayout) (live : List DeviceLayout) :
    layout.strike (layout :: live) = some live := by
  unfold DeviceLayout.strike
  rw [if_pos List.mem_cons_self, List.erase_cons_head]

/-- Of two layouts the one that was created first may be struck out, also if they are the same. -/
@[simp] theorem strike_pair (layout other : DeviceLayout) :
    layout.strike [other, layout] = some [other] := by
  by_cases h : other = layout
  · rw [h, strike_cons_self]
  · unfold DeviceLayout.strike
    rw [if_pos (List.mem_cons_of_mem _ List.mem_cons_self), List.erase_cons_tail (by simpa using h),
      List.erase_cons_head]

/-- The layouts that a device is set up with, the last one first. -/
def DeviceResources.layouts (resources : DeviceResources) : List DeviceLayout :=
  [.pipelines resources.pipelineLayout, .set resources.reservation.placeholder,
    .set resources.reservation.instrumentation]

/-! ### The calls of a setup -/

/-- The calls with which a slot is reserved, the first one first, and the answer. Behind a call that
fails, what was created is destroyed. -/
inductive ReserveCalls (slot : UInt32) :
    List DeviceCall → Except Fault (Reservation × PipelineLayoutHandle) → Prop where
  | noSet (cause : Fault) :
      ReserveCalls slot [.createSetLayout instrumentationBindings (.error cause)]
        (.error (.initializationFailed
          "vkCreateDescriptorSetLayout failed for internal descriptor set"))
  | noPlaceholder (instrumentation : SetLayoutHandle) (cause : Fault) :
      ReserveCalls slot
        [.createSetLayout instrumentationBindings (.ok instrumentation),
          .createSetLayout [] (.error cause), .destroySetLayout instrumentation]
        (.error (.initializationFailed
          "vkCreateDescriptorSetLayout failed for internal dummy descriptor set"))
  | noPipelineLayout (placeholder instrumentation : SetLayoutHandle) (cause : Fault) :
      ReserveCalls slot
        [.createSetLayout instrumentationBindings (.ok instrumentation),
          .createSetLayout [] (.ok placeholder),
          .createPipelineLayout (Reservation.internalLayouts ⟨slot, placeholder, instrumentation⟩)
            (.error cause),
          .destroySetLayout placeholder, .destroySetLayout instrumentation]
        (.error (.initializationFailed
          "vkCreatePipelineLayout failed for internal pipeline layout"))
  | reserved (reservation : Reservation) (layout : PipelineLayoutHandle)
      (hslot : reservation.slot = slot) :
      ReserveCalls slot
        [.createSetLayout instrumentationBindings (.ok reservation.instrumentation),
          .createSetLayout [] (.ok reservation.placeholder),
          .createPipelineLayout reservation.internalLayouts (.ok layout)]
        (.ok (reservation, layout))

namespace ReserveCalls

variable {slot : UInt32} {calls : List DeviceCall}
  {answer : Except Fault (Reservation × PipelineLayoutHandle)}

/-- A slot that is not reserved leaves no layout behind, and a slot that is leaves its three. -/
theorem account_eq (h : ReserveCalls slot calls answer) (live : List DeviceLayout) :
    account live calls = some (match answer with
      | .error _ => live
      | .ok (reservation, layout) => .pipelines layout :: .set reservation.placeholder ::
          .set reservation.instrumentation :: live) := by
  cases h <;> simp [DeviceCall.enter]

/-- A slot is not reserved if and only if a call fails. -/
theorem exists_fails_iff (h : ReserveCalls slot calls answer) :
    (∃ call ∈ calls, call.fails = true) ↔ ∃ fault, answer = .error fault := by
  cases h <;> simp [DeviceCall.fails]

end ReserveCalls

/-- The calls of a setup, the first one first, and what the device is set up with, if it is. A setup
may be refused before any call. -/
inductive SetupCalls (may : Prop) (capabilities : Capabilities) :
    List DeviceCall → Option DeviceResources → Prop where
  | refused (hmay : ¬ may) : SetupCalls may capabilities [] none
  | failed (hmay : may) {slot : UInt32} {calls : List DeviceCall} {fault : Fault}
      (hslot : reservedSlot capabilities.maxBoundDescriptorSets = .ok slot)
      (hcalls : ReserveCalls slot calls (.error fault)) : SetupCalls may capabilities calls none
  | ready (hmay : may) {slot : UInt32} {calls : List DeviceCall} {reservation : Reservation}
      {layout : PipelineLayoutHandle}
      (hslot : reservedSlot capabilities.maxBoundDescriptorSets = .ok slot)
      (hcalls : ReserveCalls slot calls (.ok (reservation, layout))) :
      SetupCalls may capabilities calls (some ⟨capabilities, reservation, layout⟩)

namespace SetupCalls

variable {may : Prop} {capabilities : Capabilities} {calls : List DeviceCall}
  {made : Option DeviceResources}

/-- A setup that fails leaves no layout behind, and one that succeeds leaves those that the device
is set up with. -/
theorem account_eq (h : SetupCalls may capabilities calls made) (live : List DeviceLayout) :
    account live calls = some (made.elim [] DeviceResources.layouts ++ live) := by
  cases h with
  | refused hmay => rfl
  | failed hmay hslot hcalls => exact hcalls.account_eq live
  | ready hmay hslot hcalls => exact hcalls.account_eq live

/-- A setup succeeds if and only if it is not refused and no call fails. -/
theorem isSome_iff (h : SetupCalls may capabilities calls made) :
    made.isSome = true ↔ may ∧ ∀ call ∈ calls, call.fails = false := by
  cases h with
  | refused hmay => simp [hmay]
  | failed hmay hslot hcalls =>
    obtain ⟨call, hcall, hfails⟩ := hcalls.exists_fails_iff.mpr ⟨_, rfl⟩
    refine iff_of_false Bool.false_ne_true fun hnone ↦ ?_
    rw [hnone.2 call hcall] at hfails
    exact Bool.false_ne_true hfails
  | ready hmay hslot hcalls =>
    refine iff_of_true rfl ⟨hmay, fun call hcall ↦ Bool.eq_false_iff.mpr fun hfails ↦ ?_⟩
    obtain ⟨fault, hanswer⟩ := hcalls.exists_fails_iff.mp ⟨call, hcall, hfails⟩
    cases hanswer

end SetupCalls

namespace Instrumentor

variable {P : Platform}

theorem asks_createSetLayout {s : Instrumentor P.audited} {bindings : List SetBinding}
    {answer : Except Fault SetLayoutHandle} (h : (s.createSetLayout bindings).1 = answer) :
    s.Asks [.createSetLayout bindings answer] (s.createSetLayout bindings).2 := by
  rw [← h]
  exact calls_createSetLayout s bindings

theorem asks_createPipelineLayout {s : Instrumentor P.audited} {layouts : List SetLayoutHandle}
    {answer : Except Fault PipelineLayoutHandle} (h : (s.createPipelineLayout layouts).1 = answer) :
    s.Asks [.createPipelineLayout layouts answer] (s.createPipelineLayout layouts).2 := by
  rw [← h]
  exact calls_createPipelineLayout s layouts

theorem asks_destroySetLayout (s : Instrumentor P.audited) (layout : SetLayoutHandle) :
    s.Asks [.destroySetLayout layout] (s.destroySetLayout layout) := rfl

/-- A slot is reserved with calls of one of four forms. If one of them fails instrumentation is
switched off. -/
theorem exists_reserveCalls (s : Instrumentor P.audited) (slot : UInt32) :
    ∃ calls, ReserveCalls slot calls (s.reserve slot).1 ∧ s.Asks calls (s.reserve slot).2 ∧
      ∀ fault, (s.reserve slot).1 = .error fault →
        (s.reserve slot).2.subsystem.active = false := by
  unfold reserve
  cases hfirst : (s.createSetLayout instrumentationBindings).1 with
  | error cause =>
    simp only [hfirst]
    exact ⟨_, .noSet cause, asks_createSetLayout hfirst, fun _ _ ↦ rfl⟩
  | ok instrumentation =>
    have hone := asks_createSetLayout hfirst
    simp only [hfirst]
    generalize (s.createSetLayout instrumentationBindings).2 = t at hone ⊢
    cases hsecond : (t.createSetLayout []).1 with
    | error cause =>
      have htwo := chains_asks.trans hone (asks_createSetLayout hsecond)
      have hcleared := chains_asks.trans htwo (asks_destroySetLayout _ instrumentation)
      exact ⟨_, .noPlaceholder instrumentation cause, hcleared, fun _ _ ↦ rfl⟩
    | ok placeholder =>
      have htwo := chains_asks.trans hone (asks_createSetLayout hsecond)
      simp only []
      generalize (t.createSetLayout []).2 = u at htwo ⊢
      cases hthird : (u.createPipelineLayout
          (Reservation.internalLayouts ⟨slot, placeholder, instrumentation⟩)).1 with
      | error cause =>
        have hthree := chains_asks.trans htwo (asks_createPipelineLayout hthird)
        have hone := chains_asks.trans hthree (asks_destroySetLayout _ placeholder)
        have hcleared := chains_asks.trans hone (asks_destroySetLayout _ instrumentation)
        exact ⟨_, .noPipelineLayout placeholder instrumentation cause, hcleared, fun _ _ ↦ rfl⟩
      | ok layout =>
        have hthree := chains_asks.trans htwo (asks_createPipelineLayout hthird)
        exact ⟨_, .reserved ⟨slot, placeholder, instrumentation⟩ layout rfl, hthree,
          fun _ h ↦ nomatch h⟩

/-- Reserving a slot does not change what the device is set up with. -/
theorem resources_reserve (s : Instrumentor P) (slot : UInt32) :
    (s.reserve slot).2.resources = s.resources := by
  have hkeeps : Reserves (P := P) fun s t ↦ t.resources = s.resources :=
    { refl := fun _ ↦ rfl
      trans := fun hst htu ↦ htu.trans hst
      destroySetLayout := fun _ _ ↦ rfl
      destroyPipelineLayout := fun _ _ ↦ rfl
      createSetLayout := fun _ _ ↦ rfl
      createPipelineLayout := fun _ _ ↦ rfl
      internalError := fun _ _ _ ↦ rfl }
  exact hkeeps.reserve s slot

/-- That nothing stands against setting a device up, as far as is known before any call to it. -/
def MaySetUp (s : Instrumentor P) (capabilities : Capabilities) : Prop :=
  s.subsystem.active = true ∧ capabilities.missingFeatures = [] ∧
    ∃ slot, ShaderGuard.reservedSlot capabilities.maxBoundDescriptorSets = .ok slot

/-- How a setup goes: the calls that it makes, the first one first, and what the device is set up
with, if it is. What it was set up with before stays if the setup fails. -/
structure SetsUp (s : Instrumentor P.audited) (capabilities : Capabilities)
    (calls : List DeviceCall) (made : Option DeviceResources) : Prop where
  story : SetupCalls (s.MaySetUp capabilities) capabilities calls made
  asks : s.Asks calls (s.setUpDevice capabilities).2
  resources : (s.setUpDevice capabilities).2.resources = made.or s.resources
  answer : (s.setUpDevice capabilities).1 = .ok () ↔ made.isSome = true
  off : made = none → (s.setUpDevice capabilities).2.subsystem.active = false

namespace SetsUp

/-- A setup that fails leaves nothing but a report. -/
theorem of_error {s t : Instrumentor P.audited} {capabilities : Capabilities} {fault : Fault}
    {calls : List DeviceCall} (hafter : s.setUpDevice capabilities = (.error fault, t))
    (hstory : SetupCalls (s.MaySetUp capabilities) capabilities calls none)
    (hasks : s.Asks calls t) (hresources : t.resources = s.resources)
    (hoff : t.subsystem.active = false) : s.SetsUp capabilities calls none := by
  refine ⟨hstory, ?_, ?_, ?_, fun _ ↦ ?_⟩ <;> rw [hafter]
  · exact hasks
  · exact hresources
  · exact iff_of_false (fun h ↦ nomatch h) Bool.false_ne_true
  · exact hoff

end SetsUp

/-- Every setup goes in such a way. -/
theorem exists_setsUp (s : Instrumentor P.audited) (capabilities : Capabilities) :
    ∃ calls made, s.SetsUp capabilities calls made := by
  by_cases hactive : s.subsystem.active = true
  · cases hmissing : capabilities.missingFeatures with
    | cons feature rest =>
      have hafter : s.setUpDevice capabilities =
          (.error (.initializationFailed (missingFeatureMessage feature)),
            s.internalError deviceCreation (missingFeatureMessage feature)) := by
        simp [setUpDevice, hactive, hmissing]
      have hrefused : ¬ s.MaySetUp capabilities := fun hmay ↦ by
        rw [MaySetUp, hmissing] at hmay
        cases hmay.2.1
      exact ⟨[], none, .of_error hafter (.refused hrefused) (chains_asks.refl s) rfl rfl⟩
    | nil =>
      cases hslot : ShaderGuard.reservedSlot capabilities.maxBoundDescriptorSets with
      | error fault =>
        have hafter : s.setUpDevice capabilities =
            (.error fault, s.internalError deviceCreation fault.message) := by
          simp [setUpDevice, hactive, hmissing, hslot]
        have hrefused : ¬ s.MaySetUp capabilities := fun hmay ↦ by
          obtain ⟨slot, hfree⟩ := hmay.2.2
          rw [hslot] at hfree
          cases hfree
        exact ⟨[], none, .of_error hafter (.refused hrefused) (chains_asks.refl s) rfl rfl⟩
      | ok slot =>
        have hmay : s.MaySetUp capabilities := ⟨hactive, hmissing, slot, hslot⟩
        obtain ⟨calls, hcalls, hasks, hoff⟩ := exists_reserveCalls s slot
        cases hreserved : (s.reserve slot).1 with
        | error fault =>
          have hafter : s.setUpDevice capabilities = (.error fault, (s.reserve slot).2) := by
            simp [setUpDevice, hactive, hmissing, hslot, hreserved]
          rw [hreserved] at hcalls
          exact ⟨calls, none, .of_error hafter (.failed hmay hslot hcalls) hasks
            (resources_reserve s slot) (hoff fault hreserved)⟩
        | ok pair =>
          obtain ⟨reservation, layout⟩ := pair
          rw [hreserved] at hcalls
          have hafter : s.setUpDevice capabilities =
              (.ok (), ({ (s.reserve slot).2 with
                resources := some ⟨capabilities, reservation, layout⟩ } : Instrumentor _).record
                  (.plain .info source
                    s!"Instrumentation descriptor set reserved at slot {slot.toNat}")) := by
            simp [setUpDevice, hactive, hmissing, hslot, hreserved]
          refine ⟨calls, some ⟨capabilities, reservation, layout⟩, .ready hmay hslot hcalls, ?_, ?_,
            ?_, fun hnone ↦ nomatch hnone⟩ <;> rw [hafter]
          · exact hasks
          · rfl
          · exact iff_of_true rfl rfl
  · rw [Bool.not_eq_true] at hactive
    have hrefused : ¬ s.MaySetUp capabilities := by
      intro hmay
      rw [hmay.1] at hactive
      cases hactive
    exact ⟨[], none, .of_error (setUpDevice_of_inactive hactive capabilities)
      (.refused hrefused) (chains_asks.refl s) rfl hactive⟩

/-! ### The account of a state -/

/-- The layouts that are live, the latest first, as the calls to the device have it; none if a
layout was destroyed that was not live. -/
def liveLayouts (s : Instrumentor P.audited) : Option (List DeviceLayout) :=
  account [] s.calls.reverse

/-- The layouts that the device is set up with, if it is. -/
def recordedLayouts (s : Instrumentor P) : List DeviceLayout :=
  s.resources.elim [] DeviceResources.layouts

theorem liveLayouts_of_asks {s t : Instrumentor P.audited} {calls : List DeviceCall}
    (h : s.Asks calls t) : t.liveLayouts = s.liveLayouts.bind fun live ↦ account live calls := by
  unfold liveLayouts
  rw [h, List.reverse_append, List.reverse_reverse, account_append]

/-- Calls that come to nothing leave the live layouts as they were. -/
theorem liveLayouts_eq_of_asks {s t : Instrumentor P.audited} {calls : List DeviceCall}
    (h : s.Asks calls t) (hnothing : ∀ live, account live calls = some live) :
    t.liveLayouts = s.liveLayouts := by
  rw [liveLayouts_of_asks h, funext hnothing]
  exact Option.bind_fun_some _

/-- That between two states neither the live layouts change nor what the device is set up with. -/
structure SameLayouts (s t : Instrumentor P.audited) : Prop where
  live : t.liveLayouts = s.liveLayouts
  resources : t.resources = s.resources

namespace SameLayouts

theorem of_device_eq {s t : Instrumentor P.audited} (hdevice : t.device = s.device)
    (hresources : t.resources = s.resources) : SameLayouts s t where
  live := by
    unfold liveLayouts calls
    rw [hdevice]
  resources := hresources

/-- A call that concerns no layout. -/
theorem of_call {s t : Instrumentor P.audited} {call : DeviceCall} (hasks : s.Asks [call] t)
    (hcall : call.besidesLayouts = true) (hresources : t.resources = s.resources) :
    SameLayouts s t where
  live := liveLayouts_eq_of_asks hasks fun live ↦ by
    rw [account_cons, enter_of_besidesLayouts hcall, Option.bind_some, account_nil]
  resources := hresources

theorem refl (s : Instrumentor P.audited) : SameLayouts s s := ⟨rfl, rfl⟩

theorem trans {s t u : Instrumentor P.audited} (hst : SameLayouts s t) (htu : SameLayouts t u) :
    SameLayouts s u :=
  ⟨htu.live.trans hst.live, htu.resources.trans hst.resources⟩

theorem rewrites : Rewrites fun (s : Instrumentor P.audited) _ t ↦ SameLayouts s t where
  refl := refl
  trans := trans
  record _ _ := .of_device_eq rfl rfl
  internalError _ _ _ := .of_device_eq rfl rfl
  createModule _ _ := .of_call (asks_createModule rfl) rfl rfl
  createLibrary _ _ := .of_call (asks_createLibrary rfl) rfl rfl
  instrumentCode s code bindless location := by
    obtain ⟨bench, subsystem, cache, nextId, hafter, -⟩ :=
      exists_instrumentCode_eq s code bindless location
    rw [hafter]
    exact .of_device_eq rfl rfl

theorem bookkeeping : Bookkeeping (P := P.audited) SameLayouts where
  refl := refl
  trans := trans
  destroyModule s module := .of_call (asks_destroyModule s module) rfl rfl
  destroyLibrary s library := .of_call (asks_destroyLibrary s library) rfl rfl
  note _ _ _ _ _ := .of_device_eq rfl rfl

end SameLayouts

/-- A teardown destroys each layout that the device is set up with, and does nothing else to the
device. -/
theorem exists_asks_tearDownDevice (s : Instrumentor P.audited) : ∃ calls,
    s.Asks calls s.tearDownDevice ∧
      calls.Perm (s.recordedLayouts.map DeviceLayout.destruction) ∧
      account s.recordedLayouts calls = some [] := by
  unfold tearDownDevice recordedLayouts
  cases s.resources with
  | none => exact ⟨[], chains_asks.refl s, List.Perm.refl _, rfl⟩
  | some resources =>
    refine ⟨[.destroyPipelineLayout resources.pipelineLayout,
      .destroySetLayout resources.reservation.instrumentation,
      .destroySetLayout resources.reservation.placeholder], rfl, ?_, ?_⟩
    · exact (List.Perm.swap _ _ _).cons _
    · simp [DeviceResources.layouts, DeviceCall.enter]

end Instrumentor

/-! ### Runs -/

namespace Session

open Instrumentor

variable {P : Platform}

/-- Whether a hook sets a device up that is set up already. -/
def setsUpAgain (t : Session P) : Hook → Bool
  | .setUpDevice capabilities =>
    t.state.resources.isSome && (t.state.setUpDevice capabilities).1.isOk
  | _ => false

/-- Hooks that do not concern the device leave its layouts alone. -/
theorem sameLayouts_step (t : Session P.audited) {hook : Hook}
    (hdevice : hook.concernsDevice = false) : SameLayouts t.state (t.step hook).state := by
  by_cases hreports : hook.reportsOnly = true
  · obtain ⟨log, subsystem, selectedModules, hafter, -⟩ := onlyReports_step t hreports
    rw [hafter]
    exact .of_device_eq rfl rfl
  by_cases hrecords : hook.recordsOnly = true
  · exact bookkeeping_step SameLayouts.bookkeeping t hrecords
  · cases hook with
    | moduleDestroyed module => exact .of_device_eq rfl rfl
    | preparePipelines infos location =>
      exact SameLayouts.rewrites.preparePipelines t.state infos location
    | prepareShaderObjects infos call =>
      exact SameLayouts.rewrites.prepareShaderObjects t.state infos call
    | shaderObjectsCreated creation objects =>
      simp only [step, finishShaderObjects]
      split
      · exact .refl t.state
      · next drafts _ =>
        obtain ⟨registry, shaderObjects, hafter⟩ :=
          exists_shaderObjectsCreated_eq t.state drafts objects
        rw [hafter]
        exact .of_device_eq rfl rfl
    | shaderObjectDestroyed object => exact .of_device_eq rfl rfl
    | _ => first | (cases hdevice; done) | exact absurd rfl hreports | exact absurd rfl hrecords

/-- Assumes: a hook that does not set a device up again. Where the live layouts are those that the
device is set up with, they are so behind it. -/
theorem layoutsRecorded_step {t : Session P.audited} {hook : Hook}
    (honce : t.setsUpAgain hook = false) (h : t.state.liveLayouts = some t.state.recordedLayouts) :
    (t.step hook).state.liveLayouts = some (t.step hook).state.recordedLayouts := by
  by_cases hdevice : hook.concernsDevice = true
  · cases hook with
    | setUpDevice capabilities =>
      obtain ⟨calls, made, hset⟩ := exists_setsUp t.state capabilities
      show (t.state.setUpDevice capabilities).2.liveLayouts =
        some (t.state.setUpDevice capabilities).2.recordedLayouts
      have hlive := liveLayouts_of_asks hset.asks
      rw [h, Option.bind_some, hset.story.account_eq] at hlive
      rw [hlive]
      unfold recordedLayouts
      rw [hset.resources]
      cases made with
      | none => rfl
      | some resources =>
        -- The setup has succeeded, so the device was not set up before.
        have hbefore : t.state.resources = none := by
          simpa [setsUpAgain, hset.answer.mpr rfl, Except.isOk, Except.toBool] using honce
        rw [hbefore]
        exact congrArg some (List.append_nil _)
    | tearDownDevice =>
      obtain ⟨calls, hasks, -, haccount⟩ := exists_asks_tearDownDevice t.state
      have hlive := liveLayouts_of_asks hasks
      rw [h, Option.bind_some, haccount] at hlive
      obtain ⟨log, device, hafter⟩ := exists_tearDownDevice_eq t.state
      refine hlive.trans ?_
      simp only [step, become, hafter]
      rfl
    | _ => cases hdevice
  · have hsame := sameLayouts_step t (Bool.eq_false_iff.mpr hdevice)
    rw [hsame.live, h]
    unfold recordedLayouts
    rw [hsame.resources]

theorem layoutsRecorded_run {t : Session P.audited} {hooks : List Hook}
    (honce : t.Along (fun t hook ↦ t.setsUpAgain hook = false) hooks)
    (h : t.state.liveLayouts = some t.state.recordedLayouts) :
    (t.run hooks).state.liveLayouts = some (t.run hooks).state.recordedLayouts := by
  induction hooks generalizing t with
  | nil => exact h
  | cons hook rest ih => exact ih honce.2 (layoutsRecorded_step honce.1 h)

/-- That the next setup is made whole or not at all. -/
structure SetsUpWhole (t : Session P.audited) (capabilities : Capabilities) : Prop where
  /-- Nothing but layouts is created or destroyed. -/
  onlyLayouts : OnlyLayouts t.state (t.step (.setUpDevice capabilities)).state
  /-- It succeeds if nothing stands against it and no call fails, and only then. -/
  succeeds : ∃ calls, t.state.Asks calls (t.step (.setUpDevice capabilities)).state ∧
    ((t.state.setUpDevice capabilities).1 = .ok () ↔
      t.state.MaySetUp capabilities ∧ ∀ call ∈ calls, call.fails = false)
  /-- If it succeeds the device is set up. -/
  whole : (t.state.setUpDevice capabilities).1 = .ok () →
    ∃ reservation layout, (t.step (.setUpDevice capabilities)).state.resources =
      some ⟨capabilities, reservation, layout⟩
  /-- If it fails everything on the device is as it was, and instrumentation is switched off. -/
  nothing : ∀ fault, (t.state.setUpDevice capabilities).1 = .error fault →
    SameLayouts t.state (t.step (.setUpDevice capabilities)).state ∧
      (t.step (.setUpDevice capabilities)).state.subsystem.active = false
  /-- If it fails every later setup is refused. -/
  refused : ∀ fault, (t.state.setUpDevice capabilities).1 = .error fault →
    ∀ later more, let last := ((t.step (.setUpDevice capabilities)).run later).state
      last.setUpDevice more = (.error .subsystemDisabled, last)

/-- Every setup is made whole or not at all, in whatever session. -/
theorem setsUpWhole (t : Session P.audited) (capabilities : Capabilities) :
    t.SetsUpWhole capabilities := by
  obtain ⟨calls, made, hset⟩ := exists_setsUp t.state capabilities
  have hmade {fault : Fault} (h : (t.state.setUpDevice capabilities).1 = .error fault) :
      made = none := by
    refine Option.not_isSome_iff_eq_none.mp fun hsome ↦ ?_
    rw [hset.answer.mpr hsome] at h
    cases h
  refine
    { onlyLayouts := .setUpDevice t.state capabilities
      succeeds := ⟨calls, hset.asks, hset.answer.trans hset.story.isSome_iff⟩
      whole := fun h ↦ ?_
      nothing := fun fault h ↦ ⟨⟨?_, ?_⟩, hset.off (hmade h)⟩
      refused := fun fault h later more ↦
        setUpDevice_of_inactive (inactive_run (hset.off (hmade h)) later) more }
  · obtain ⟨slot, reservation, layout, entry, -, -, hafter⟩ := exists_reserve_of_setUpDevice h
    refine ⟨reservation, layout, ?_⟩
    simp only [step, become, hafter]
    rfl
  · refine liveLayouts_eq_of_asks hset.asks fun live ↦ ?_
    rw [hset.story.account_eq, hmade h]
    rfl
  · have hresources := hset.resources
    rw [hmade h, Option.none_or] at hresources
    exact hresources

/-- That the next teardown destroys every layout that the device is set up with once, and does
nothing else to the device, and that it empties the cache. -/
structure TearsDown (t : Session P.audited) : Prop where
  destroys : ∃ calls, t.state.Asks calls (t.step .tearDownDevice).state ∧
    calls.Perm (t.state.recordedLayouts.map DeviceLayout.destruction)
  resources : (t.step .tearDownDevice).state.resources = none
  cache : (t.step .tearDownDevice).state.cache = .empty

theorem tearsDown (t : Session P.audited) : t.TearsDown := by
  obtain ⟨calls, hasks, hperm, -⟩ := exists_asks_tearDownDevice t.state
  obtain ⟨log, device, hafter⟩ := exists_tearDownDevice_eq t.state
  refine ⟨⟨calls, hasks, hperm⟩, ?_, ?_⟩ <;> simp only [step, become, hafter]

/-- Assumes: a run in which no device is set up that is set up already. Behind it, and so behind each
hook of it, the live layouts are those that the device is set up with, and no layout was destroyed
that was not live. The next setup is made whole or not at all, and if it fails every later one is
refused. The next teardown destroys every layout that the device is set up with once, and empties
the cache. -/
theorem layouts_all_or_nothing (settings : Settings) (device : P.DeviceState)
    (tools : P.ToolState) (storage : P.StorageState) (hooks : List Hook)
    (honce : (start settings (device, []) tools storage : Session P.audited).Along
      (fun t hook ↦ t.setsUpAgain hook = false) hooks) :
    let t := (start settings (device, []) tools storage : Session P.audited).run hooks
    t.state.liveLayouts = some t.state.recordedLayouts ∧
      (∀ capabilities, t.SetsUpWhole capabilities) ∧ t.TearsDown := by
  intro t
  exact ⟨layoutsRecorded_run honce rfl, setsUpWhole t, tearsDown t⟩

/-- A device is set up, torn down and set up again. A further setup fails, since there are too few
slots, and leaves the layouts of the second one. -/
theorem layouts_all_or_nothing_one_slot :
    let first : Session (Simulation.platform false {}).audited := start {} ({}, []) [] []
    let few : Capabilities := { maxBoundDescriptorSets := 1 }
    let hooks : List Hook := [.setUpDevice {}, .tearDownDevice, .setUpDevice {}, .setUpDevice few]
    let t := first.run hooks
    first.Along (fun t hook ↦ t.setsUpAgain hook = false) hooks ∧
      t.state.recordedLayouts = [.pipelines ⟨65541⟩, .set ⟨65540⟩, .set ⟨65539⟩] ∧
      t.state.liveLayouts = some t.state.recordedLayouts ∧
      (∀ capabilities, t.SetsUpWhole capabilities) ∧ t.TearsDown := by
  intro first few hooks t
  have honce : first.Along (fun t hook ↦ t.setsUpAgain hook = false) hooks := by decide +kernel
  have hrecorded : t.state.recordedLayouts =
      [.pipelines ⟨65541⟩, .set ⟨65540⟩, .set ⟨65539⟩] := by decide +kernel
  exact ⟨honce, hrecorded,
    layouts_all_or_nothing (P := Simulation.platform false {}) {} {} [] [] hooks honce⟩

end Session

end ShaderGuard
