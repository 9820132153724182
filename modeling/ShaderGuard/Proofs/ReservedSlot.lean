import ShaderGuard.Proofs.DeviceSetup
import ShaderGuard.Proofs.ToolCalls

/-!
# The reserved slot

One slot is reserved when a device is set up, and five parts of the library count on it, each with
an arithmetic of its own: the layout through which the instrumentation's set is bound alone, the
lists of set layouts of pipeline layouts and of shader objects, the passes, and the limit that the
application was told. They agree (`Session.one_slot_of_setUpDevice`): on a device with `limit` slots
the reserved one is the last of the first 32, and from the setup until the device is torn down every
list that is patched is completed up to it (`Reservation.Completes`) and every module is loaded for
it. A list is left alone exactly if it reaches the slot itself. The application was told of a limit
with which no list does, but for devices with more than 32 slots, of which it was warned
(`Instrumentor.le_slot_of_advertised`).
-/

set_option autoImplicit false

namespace ShaderGuard

open Bytecode (ShaderId)

/-! ### The arithmetic of the slot -/

/-- The slots that are used, as a number. -/
theorem toNat_min_usableSlots (limit : UInt32) :
    (min limit usableSlots).toNat = min limit.toNat 32 := by
  have hmin : min limit usableSlots = if limit ≤ usableSlots then limit else usableSlots := rfl
  have husable : usableSlots.toNat = 32 := rfl
  rw [hmin]
  by_cases h : limit ≤ usableSlots
  · have hle : limit.toNat ≤ 32 := UInt32.le_iff_toNat_le.mp h
    rw [if_pos h, Nat.min_eq_left hle]
  · have hlt : 32 < limit.toNat := UInt32.lt_iff_toNat_lt.mp (UInt32.not_le.mp h)
    rw [if_neg h, Nat.min_eq_right (Nat.le_of_lt hlt), husable]

/-- Assumes: a slot that is reserved. It is the last of the first 32, and not the only one. -/
theorem toNat_of_reservedSlot {limit slot : UInt32} (h : reservedSlot limit = .ok slot) :
    0 < slot.toNat ∧ slot.toNat + 1 = min limit.toNat 32 := by
  unfold reservedSlot at h
  by_cases hfew : min limit usableSlots ≤ 1
  · simp only [if_pos hfew] at h
    cases h
  · simp only [if_neg hfew] at h
    have hslot := Except.ok.inj h
    have hmany : 1 < (min limit usableSlots).toNat :=
      UInt32.lt_iff_toNat_lt.mp (UInt32.not_le.mp hfew)
    have hone : (1 : UInt32) ≤ min limit usableSlots :=
      UInt32.le_iff_toNat_le.mpr (Nat.le_of_lt hmany)
    rw [← hslot, UInt32.toNat_sub_of_le _ _ hone, ← toNat_min_usableSlots]
    exact ⟨Nat.sub_pos_of_lt hmany, Nat.sub_add_cancel (Nat.le_of_lt hmany)⟩

/-- Assumes: that a slot can be reserved. As many set layouts as the application is told of, where a
slot is held back, do not go beyond the slot, unless the device has more than 32, of which there is
a warning. -/
theorem le_slot_of_le_advertisedLimit {limit slot : UInt32} (h : reservedSlot limit = .ok slot)
    {count : Nat} (hcount : count ≤ (advertisedLimit limit true).limit.toNat) :
    count ≤ slot.toNat ∨ 32 < limit.toNat ∧ (advertisedLimit limit true).warnings ≠ [] := by
  obtain ⟨hpos, hslot⟩ := toNat_of_reservedSlot h
  have hmany : (1 : UInt32) < limit := by
    have hlimit : 1 < limit.toNat := by omega
    exact UInt32.lt_iff_toNat_lt.mpr hlimit
  have hsome : limit ≠ 0 := by
    rintro rfl
    exact absurd hmany (by decide)
  by_cases hlarge : usableSlots < limit
  · refine Or.inr ⟨UInt32.lt_iff_toNat_lt.mp hlarge, ?_⟩
    unfold advertisedLimit
    simp [if_neg hsome, if_pos hlarge, if_pos hmany]
  · left
    have hle : limit.toNat ≤ 32 := UInt32.le_iff_toNat_le.mp (UInt32.not_lt.mp hlarge)
    have hlimit : (advertisedLimit limit true).limit = limit - 1 := by
      unfold advertisedLimit
      simp [if_neg hsome, if_pos hmany]
    have hone : (limit - 1).toNat = limit.toNat - 1 :=
      UInt32.toNat_sub_of_le _ _ (UInt32.le_of_lt hmany)
    rw [hlimit, hone] at hcount
    omega

/-- Of 33 slots the application is told of 32, one more than there are below the reserved one. -/
example : (advertisedLimit 33 true).limit = 32 ∧ (reservedSlot 33).toOption = some 31 := by decide

namespace Reservation

/-- That a caller's list of set layouts is completed up to the reserved slot: the caller's come
first, the placeholder stands at every index behind them, and the instrumentation's layout at the
slot, where the list ends. -/
structure Completes (reservation : Reservation) (given completed : List SetLayoutHandle) :
    Prop where
  length : completed.length = reservation.slot.toNat + 1
  callers : given <+: completed
  placeholders : ∀ index, given.length ≤ index → index < reservation.slot.toNat →
    completed[index]? = some reservation.placeholder
  instrumentation : completed[reservation.slot.toNat]? = some reservation.instrumentation

variable {reservation : Reservation} {given completed : List SetLayoutHandle}

/-- Assumes: a list that does not reach the slot. The fillers complete it. -/
theorem completes_fillers (h : given.length ≤ reservation.slot.toNat) :
    reservation.Completes given (given ++ reservation.fillers given.length) where
  length := by rw [List.length_append, reservation.length_fillers h]
  callers := List.prefix_append _ _
  placeholders index hbehind hbefore := by
    have hindex : index - given.length < reservation.slot.toNat - given.length := by omega
    unfold fillers
    rw [List.getElem?_append_right hbehind, List.getElem?_append_left (by simpa using hindex),
      List.getElem?_replicate, if_pos hindex]
  instrumentation := by
    unfold fillers
    rw [List.getElem?_append_right h, List.getElem?_append_right (by simp)]
    simp

/-- A list is completed if it does not reach the slot, and left alone otherwise. -/
theorem patch_cases (reservation : Reservation) (given : List SetLayoutHandle) :
    (given.length ≤ reservation.slot.toNat ∧
        reservation.patch given = .patched (given ++ reservation.fillers given.length)) ∨
      reservation.slot.toNat < given.length ∧
        reservation.patch given = .conflict given.length := by
  unfold patch
  by_cases h : reservation.slot.toNat < given.length
  · exact Or.inr ⟨h, if_pos h⟩
  · exact Or.inl ⟨Nat.le_of_not_lt h, if_neg h⟩

/-- A completed list reaches the slot itself, so it is not completed again. -/
theorem Completes.conflict (h : reservation.Completes given completed) :
    reservation.patch completed = .conflict completed.length := by
  have hlength := h.length
  unfold patch
  rw [if_pos (by omega)]

end Reservation

variable {P : Platform}

namespace Instrumentor

/-! ### Lists of set layouts -/

/-- That the lists of set layouts of pipeline layouts and of shader objects are treated as a
reservation says. -/
structure FillsUpTo (reservation : Reservation) (s : Instrumentor P) : Prop where
  /-- A list that is patched is completed. -/
  layouts : ∀ given completed, (s.patchPipelineLayout given).1 = some completed →
    reservation.Completes given completed
  /-- While shaders are rewritten, a list is left alone exactly if it reaches the slot. -/
  layoutsKept : s.isInstrumenting = true → ∀ given,
    (s.patchPipelineLayout given).1 = none ↔ reservation.slot.toNat < given.length
  /-- The list of a shader object that is changed is completed, with what is known of the caller's
  set layouts. -/
  objects : ∀ infos call, List.Forall₂
    (fun (info : ShaderObjectInfo) (draft : ShaderObjectDraft) ↦
      draft.info.setLayouts ≠ info.setLayouts →
        info.setLayouts <+: draft.info.setLayouts ∧
          reservation.Completes (info.setLayouts.map SetLayout.handle)
            (draft.info.setLayouts.map SetLayout.handle))
    infos (s.prepareShaderObjects infos call).1
  /-- While shaders are rewritten, the list of a shader object is left alone exactly if it reaches
  the slot. -/
  objectsKept : s.isInstrumenting = true → ∀ infos call, List.Forall₂
    (fun (info : ShaderObjectInfo) (draft : ShaderObjectDraft) ↦
      draft.info.setLayouts = info.setLayouts ↔ reservation.slot.toNat < info.setLayouts.length)
    infos (s.prepareShaderObjects infos call).1

/-- What a list of set layouts of a pipeline layout becomes. -/
theorem patchPipelineLayout_eq {s : Instrumentor P} {reservation : Reservation}
    (hready : s.reservation = some reservation) (given : List SetLayoutHandle) :
    (s.patchPipelineLayout given).1 =
      if s.isInstrumenting = true ∧ given.length ≤ reservation.slot.toNat then
        some (given ++ reservation.fillers given.length)
      else none := by
  unfold patchPipelineLayout
  rw [hready]
  simp only []
  by_cases hactive : s.isInstrumenting = true
  · rw [if_pos hactive]
    rcases reservation.patch_cases given with ⟨hfree, hpatch⟩ | ⟨htaken, hpatch⟩
    · rw [hpatch, if_pos ⟨hactive, hfree⟩]
    · rw [hpatch, if_neg fun h ↦ Nat.not_le_of_lt htaken h.2]
  · rw [if_neg hactive, if_neg fun h ↦ hactive h.1]

theorem setLayouts_instrumentObject (location : String) (s : Instrumentor P)
    (info : ShaderObjectInfo) (bindless : Bool) :
    (instrumentObject location s info bindless).1.info.setLayouts = info.setLayouts := by
  unfold instrumentObject
  split
  · rfl
  · simp only []
    split <;> rfl

/-- What the list of set layouts of a shader object becomes. -/
theorem setLayouts_prepareShaderObject (reservation : Reservation) (call : String)
    (s : Instrumentor P) (indexed : ShaderObjectInfo × Nat) :
    (prepareShaderObject reservation call s indexed).1.info.setLayouts =
      if indexed.1.setLayouts.length ≤ reservation.slot.toNat then
        (indexed.1.patched reservation).setLayouts
      else indexed.1.setLayouts := by
  unfold prepareShaderObject
  simp only []
  rcases reservation.patch_cases (indexed.1.setLayouts.map SetLayout.handle) with
    ⟨hfree, hpatch⟩ | ⟨htaken, hpatch⟩
  · rw [List.length_map] at hfree
    rw [hpatch, if_pos hfree]
    exact setLayouts_instrumentObject _ s _ _
  · rw [List.length_map] at htaken
    rw [hpatch, if_neg (Nat.not_le_of_lt htaken)]

theorem setLayouts_prepareShaderObjects {s : Instrumentor P} {reservation : Reservation}
    (hready : s.reservation = some reservation) (infos : List ShaderObjectInfo) (call : String) :
    List.Forall₂
      (fun (info : ShaderObjectInfo) (draft : ShaderObjectDraft) ↦ draft.info.setLayouts =
        if s.isInstrumenting = true ∧ info.setLayouts.length ≤ reservation.slot.toNat then
          (info.patched reservation).setLayouts
        else info.setLayouts)
      infos (s.prepareShaderObjects infos call).1 := by
  unfold prepareShaderObjects
  rw [hready]
  simp only []
  by_cases hactive : s.isInstrumenting = true
  · rw [if_pos hactive]
    simp only [hactive, true_and]
    exact forall₂_of_zipIdx (forall₂_thread_of_step
      (fun s indexed ↦ setLayouts_prepareShaderObject reservation call s indexed) s infos.zipIdx)
  · rw [if_neg hactive, List.forall₂_map_right_iff, List.forall₂_same]
    intro info _
    rw [if_neg fun h ↦ hactive h.1]

/-- A shader object that is patched has its list completed. -/
theorem completes_patched {reservation : Reservation} {info : ShaderObjectInfo}
    (h : info.setLayouts.length ≤ reservation.slot.toNat) :
    reservation.Completes (info.setLayouts.map SetLayout.handle)
      ((info.patched reservation).setLayouts.map SetLayout.handle) := by
  have hlength : (info.setLayouts.map SetLayout.handle).length ≤ reservation.slot.toNat := by
    rwa [List.length_map]
  have hhandles : (info.patched reservation).setLayouts.map SetLayout.handle =
      info.setLayouts.map SetLayout.handle ++
        reservation.fillers (info.setLayouts.map SetLayout.handle).length := by
    simp [ShaderObjectInfo.patched, Function.comp_def]
  rw [hhandles]
  exact Reservation.completes_fillers hlength

/-- A device that is set up is used as its reservation says. -/
theorem fillsUpTo_of_reservation {s : Instrumentor P} {reservation : Reservation}
    (hready : s.reservation = some reservation) : s.FillsUpTo reservation where
  layouts given completed hpatched := by
    rw [patchPipelineLayout_eq hready] at hpatched
    split at hpatched
    · next hfree =>
      rw [← Option.some.inj hpatched]
      exact Reservation.completes_fillers hfree.2
    · cases hpatched
  layoutsKept hactive given := by
    rw [patchPipelineLayout_eq hready]
    simp [hactive]
  objects infos call := by
    refine (setLayouts_prepareShaderObjects hready infos call).imp fun info draft hdraft ↦ ?_
    intro hchanged
    rw [hdraft] at hchanged ⊢
    split at hchanged
    · next hfree =>
      rw [if_pos hfree]
      exact ⟨List.prefix_append _ _, completes_patched hfree.2⟩
    · exact absurd rfl hchanged
  objectsKept hactive infos call := by
    refine (setLayouts_prepareShaderObjects hready infos call).imp fun info draft hdraft ↦ ?_
    rw [hdraft]
    by_cases hfree : info.setLayouts.length ≤ reservation.slot.toNat
    · have hlength := (completes_patched hfree).length
      rw [List.length_map] at hlength
      rw [if_pos ⟨hactive, hfree⟩]
      constructor
      · intro hsame
        rw [hsame] at hlength
        omega
      · intro htaken
        omega
    · rw [if_neg fun h ↦ hfree h.2]
      exact ⟨fun _ ↦ Nat.lt_of_not_le hfree, fun _ ↦ rfl⟩

/-! ### The passes -/

/-- That every module that is loaded between two states is loaded for the reserved slot. -/
def LoadsForSlot (s : Instrumentor P.observed) (t : Instrumentor P.observed) : Prop :=
  t.resources = s.resources ∧ ∃ calls, s.toWorkbench.Uses calls t.toWorkbench ∧
    ∀ code settings answer, .load code settings answer ∈ calls →
      s.reservedSlot = some settings.outputSet

namespace LoadsForSlot

theorem of_tools_eq {s t : Instrumentor P.observed} (hresources : t.resources = s.resources)
    (htools : t.tools = s.tools) : LoadsForSlot s t :=
  ⟨hresources, [], Workbench.uses_of_tools_eq htools,
    fun _ _ _ hcall ↦ absurd hcall List.not_mem_nil⟩

theorem trans {s t u : Instrumentor P.observed} (hst : LoadsForSlot s t) (htu : LoadsForSlot t u) :
    LoadsForSlot s u := by
  obtain ⟨hresources, calls, hused, hloads⟩ := hst
  obtain ⟨hresources', calls', hused', hloads'⟩ := htu
  refine ⟨hresources'.trans hresources, calls ++ calls', Workbench.chains_uses.trans hused hused',
    fun code settings answer hcall ↦ ?_⟩
  rcases List.mem_append.mp hcall with hcall | hcall
  · exact hloads code settings answer hcall
  · have hslot := hloads' code settings answer hcall
    unfold reservedSlot at hslot ⊢
    rwa [hresources] at hslot

theorem instrumentCode (s : Instrumentor P.observed) (code : Code) (bindless : Bool)
    (location : String) : LoadsForSlot s (s.instrumentCode code bindless location).2 := by
  obtain ⟨calls, hwork, hused⟩ := exists_codeWork s code bindless location
  refine ⟨resources_instrumentCode s code bindless location, calls, hused,
    fun loaded settings answer hcall ↦ ?_⟩
  obtain ⟨-, resources, hready, rfl⟩ := hwork.eq_of_load hcall
  unfold reservedSlot
  rw [hready]
  rfl

theorem rewrites : Rewrites fun (s : Instrumentor P.observed) _ t ↦ LoadsForSlot s t where
  refl _ := .of_tools_eq rfl rfl
  trans := LoadsForSlot.trans
  record _ _ := .of_tools_eq rfl rfl
  internalError _ _ _ := .of_tools_eq rfl rfl
  createModule _ _ := .of_tools_eq rfl rfl
  createLibrary _ _ := .of_tools_eq rfl rfl
  instrumentCode := LoadsForSlot.instrumentCode

end LoadsForSlot

/-! ### The setup -/

/-- Assumes: that the objects for a slot were created. The instrumentation's layout, the placeholder
and the internal pipeline layout were asked for, in this order. -/
theorem exists_calls_reserve {s : Instrumentor P.observed} {slot : UInt32}
    {reservation : Reservation} {layout : PipelineLayoutHandle}
    (h : (s.reserve slot).1 = .ok (reservation, layout)) :
    reservation.slot = slot ∧ (s.reserve slot).2.calls =
      .createPipelineLayout reservation.internalLayouts (.ok layout) ::
        .createSetLayout [] (.ok reservation.placeholder) ::
        .createSetLayout instrumentationBindings (.ok reservation.instrumentation) :: s.calls := by
  obtain ⟨calls, hcalls, hasks, -⟩ := exists_reserveCalls s slot
  rw [h] at hcalls
  cases hcalls with
  | reserved _ _ hslot => exact ⟨hslot, hasks⟩

/-- Assumes: a setup that succeeds. A slot is reserved on the device, and the objects for it were
asked for. -/
theorem exists_reservation_of_setUpDevice {s : Instrumentor P.observed}
    {capabilities : Capabilities} (h : (s.setUpDevice capabilities).1 = .ok ()) :
    ∃ reservation layout,
      ShaderGuard.reservedSlot capabilities.maxBoundDescriptorSets = .ok reservation.slot ∧
      (s.setUpDevice capabilities).2.resources = some ⟨capabilities, reservation, layout⟩ ∧
      (s.setUpDevice capabilities).2.calls =
        .createPipelineLayout reservation.internalLayouts (.ok layout) ::
          .createSetLayout [] (.ok reservation.placeholder) ::
          .createSetLayout instrumentationBindings (.ok reservation.instrumentation) ::
          s.calls := by
  obtain ⟨slot, reservation, layout, entry, hslot, hreserved, hafter⟩ :=
    exists_reserve_of_setUpDevice h
  obtain ⟨rfl, hcalls⟩ := exists_calls_reserve hreserved
  rw [hafter]
  exact ⟨reservation, layout, hslot, rfl, hcalls⟩

/-! ### The advertised limit -/

/-- The entry in the log for a warning about the number of slots. -/
def slotWarning (s : Instrumentor P) (text : String) : Entry :=
  Subsystem.warningReport s.settings "vkGetPhysicalDeviceProperties" text

/-- The warnings about the number of slots are logged in order. -/
theorem log_foldl_warn (warnings : List String) (s : Instrumentor P) :
    (warnings.foldl (fun s text ↦ s.warn "vkGetPhysicalDeviceProperties" text) s).log =
      s.log ++ warnings.map s.slotWarning := by
  induction warnings generalizing s with
  | nil => exact (List.append_nil s.log).symm
  | cons text rest ih =>
    have hhead : (s.warn "vkGetPhysicalDeviceProperties" text).log =
        s.log ++ [s.slotWarning text] := rfl
    have hsame : (s.warn "vkGetPhysicalDeviceProperties" text).slotWarning = s.slotWarning := rfl
    rw [List.foldl_cons, ih, hhead, hsame, List.map_cons, List.append_assoc, List.singleton_append]

/-- Assumes: that a slot can be reserved on the device, and settings that hold one back. As many set
layouts as the application is told of do not go beyond the slot, unless the device has more than 32,
of which a warning is logged. -/
theorem le_slot_of_advertised {limit slot : UInt32}
    (hslot : ShaderGuard.reservedSlot limit = .ok slot) (u : Instrumentor P)
    (hback : u.settings.reserveBindingSlot = true) {count : Nat}
    (hcount : count ≤ (u.advertise limit).1.toNat) :
    count ≤ slot.toNat ∨ 32 < limit.toNat ∧
      ∃ text more, (u.advertise limit).2.log = u.log ++ u.slotWarning text :: more ∧
        (u.slotWarning text).isWarning = true := by
  unfold advertise at hcount ⊢
  rw [hback] at hcount ⊢
  rcases le_slot_of_le_advertisedLimit hslot hcount with hfree | ⟨hlarge, hwarned⟩
  · exact Or.inl hfree
  · obtain ⟨text, more, hwarnings⟩ := List.exists_cons_of_ne_nil hwarned
    refine Or.inr ⟨hlarge, text, more.map u.slotWarning, ?_, Entry.isWarning_warningReport _ _ _⟩
    simp only []
    rw [log_foldl_warn, hwarnings, List.map_cons]

end Instrumentor

/-! ### The lifetime of a device -/

namespace Session

open Instrumentor

/-- Hooks that do not concern the device load modules for its slot. -/
theorem loadsForSlot_step (t : Session P.observed) {hook : Hook}
    (hdevice : hook.concernsDevice = false) : LoadsForSlot t.state (t.step hook).state := by
  by_cases hprepares : hook.preparesShaders = true
  · cases hook with
    | preparePipelines infos location =>
      exact LoadsForSlot.rewrites.preparePipelines t.state infos location
    | prepareShaderObjects infos call =>
      exact LoadsForSlot.rewrites.prepareShaderObjects t.state infos call
    | _ => cases hprepares
  · have hsupplies : hook.leavesSupplies = true := by
      cases hook <;> first | rfl | exact absurd rfl hprepares | cases hdevice
    exact .of_tools_eq (sameSupplies_step t hsupplies).resources
      (tools_step t (Bool.eq_false_iff.mpr hprepares))

theorem loadsForSlot_run (t : Session P.observed) {hooks : List Hook}
    (hdevice : ∀ hook ∈ hooks, hook.concernsDevice = false) :
    LoadsForSlot t.state (t.run hooks).state := by
  induction hooks generalizing t with
  | nil => exact .of_tools_eq rfl rfl
  | cons hook rest ih =>
    have hhead := loadsForSlot_step t (hdevice hook List.mem_cons_self)
    exact hhead.trans (ih _ fun other hother ↦ hdevice other (List.mem_cons_of_mem _ hother))

/-- Assumes: a setup that succeeds, in whatever session, and hooks behind it that leave the device
set up. One slot is reserved, the last of the first 32 that the device has: the internal pipeline
layout is completed up to it, every list of set layouts of a pipeline layout or a shader object is
completed up to it, unless the list reaches it, as a completed one does, and every module is loaded
for it. In settings that hold a slot back, as many set layouts as the application is told of do not
go beyond the slot, unless the device has more than 32, of which a warning is logged. -/
theorem one_slot_of_setUpDevice (t : Session P.observed) (capabilities : Capabilities)
    (hsetup : (t.state.setUpDevice capabilities).1 = .ok ()) (hooks : List Hook)
    (hdevice : ∀ hook ∈ hooks, hook.concernsDevice = false) :
    let limit := capabilities.maxBoundDescriptorSets
    let ready := t.step (.setUpDevice capabilities)
    let last := (ready.run hooks).state
    ∃ reservation layout, last.resources = some ⟨capabilities, reservation, layout⟩ ∧
      reservation.slot.toNat + 1 = min limit.toNat 32 ∧
      (∃ internal, reservation.Completes [] internal ∧
        ready.state.calls = .createPipelineLayout internal (.ok layout) ::
          .createSetLayout [] (.ok reservation.placeholder) ::
          .createSetLayout instrumentationBindings (.ok reservation.instrumentation) ::
          t.state.calls) ∧
      last.FillsUpTo reservation ∧
      (∀ given completed, reservation.Completes given completed →
        reservation.patch completed = .conflict completed.length) ∧
      (∃ calls, ready.state.toWorkbench.Uses calls last.toWorkbench ∧
        ∀ code settings answer, .load code settings answer ∈ calls →
          settings.outputSet = reservation.slot) ∧
      ∀ (u : Instrumentor P.observed) (count : Nat), u.settings.reserveBindingSlot = true →
        count ≤ (u.advertise limit).1.toNat →
        count ≤ reservation.slot.toNat ∨ 32 < limit.toNat ∧
          ∃ text more, (u.advertise limit).2.log = u.log ++ u.slotWarning text :: more ∧
            (u.slotWarning text).isWarning = true := by
  intro limit ready last
  obtain ⟨reservation, layout, hslot, hready, hcalls⟩ := exists_reservation_of_setUpDevice hsetup
  obtain ⟨hresources, calls, hused, hloads⟩ := loadsForSlot_run ready hdevice
  have hlast : last.resources = some ⟨capabilities, reservation, layout⟩ := hresources.trans hready
  have hreserved : last.reservation = some reservation := by
    unfold Instrumentor.reservation
    rw [hlast]
    rfl
  refine ⟨reservation, layout, hlast, (toNat_of_reservedSlot hslot).2, ?_, ?_, ?_, ?_, ?_⟩
  · have hinternal : reservation.Completes [] reservation.internalLayouts :=
      Reservation.completes_fillers (Nat.zero_le _)
    exact ⟨reservation.internalLayouts, hinternal, hcalls⟩
  · exact fillsUpTo_of_reservation hreserved
  · intro given completed hcompleted
    exact hcompleted.conflict
  · refine ⟨calls, hused, fun code settings answer hcall ↦ ?_⟩
    have hloaded := hloads code settings answer hcall
    have hslots : ready.state.reservedSlot = some reservation.slot := congrArg
      (Option.map fun resources : DeviceResources ↦ resources.reservation.slot) hready
    exact (Option.some.inj (hslots.symm.trans hloaded)).symm
  · intro u count hback hcount
    exact le_slot_of_advertised hslot u hback hcount

/-- A device with four slots, of which the application is told of three: the fourth is reserved,
also after a list was patched and another one left alone. -/
theorem one_slot_of_setUpDevice_four_slots :
    let t : Session (Simulation.platform false {}).observed :=
      start { reserveBindingSlot := true } ({}, []) ([], []) []
    let capabilities : Capabilities := { maxBoundDescriptorSets := 4 }
    let hooks : List Hook := [.patchPipelineLayout [⟨2⟩, ⟨3⟩],
      .patchPipelineLayout [⟨2⟩, ⟨3⟩, ⟨4⟩, ⟨5⟩]]
    let last := ((t.step (.setUpDevice capabilities)).run hooks).state
    (t.state.setUpDevice capabilities).1 = .ok () ∧
      (∀ hook ∈ hooks, hook.concernsDevice = false) ∧
      (t.state.advertise 4).1.toNat = 3 ∧
      ∃ reservation layout, last.resources = some ⟨capabilities, reservation, layout⟩ ∧
        reservation.slot.toNat = 3 ∧ last.FillsUpTo reservation := by
  intro t capabilities hooks last
  have hsetup : (t.state.setUpDevice capabilities).1 = .ok () := rfl
  have hdevice : ∀ hook ∈ hooks, hook.concernsDevice = false := by decide
  have htold : (t.state.advertise 4).1.toNat = 3 := rfl
  obtain ⟨reservation, layout, hready, hslot, -, hfills, -⟩ :=
    one_slot_of_setUpDevice t capabilities hsetup hooks hdevice
  have hthree : reservation.slot.toNat + 1 = 4 := hslot
  exact ⟨hsetup, hdevice, htold, reservation, layout, hready, Nat.succ.inj hthree, hfills⟩

end Session

end ShaderGuard
