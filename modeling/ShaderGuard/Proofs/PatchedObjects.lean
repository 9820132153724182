import ShaderGuard.Proofs.Reports
import ShaderGuard.Proofs.ReservedSlot

/-!
# Shader objects on their way to the driver

Before shader objects are created each of them is patched, selected and instrumented, in this order,
and each of these may come to nothing by itself. Whatever happens, what is forwarded is the shader
object that the application gave, but for two things: set layouts may have been put behind the
application's, and instrumented code may stand in place of the code (`Instrumentor.Forwards`). What
is done for each shader object is told on a sheet (`ObjectWork`), with the calls to the tools and
the entries in the log, and put together in order the sheets are all that a call does
(`Instrumentor.shader_objects_forwarded`).

A shader object with a set layout at the reserved slot stays as it is, and nothing is done for it but
that a warning is logged. There is no warning where instrumentation is switched off: nothing is
patched then, so there is nothing to warn of (`Session.silent_where_off`).
-/

set_option autoImplicit false

namespace ShaderGuard

open Bytecode (ShaderId)

/-- What is done for a shader object: the draft, the calls to the tools, and what is logged. -/
structure ObjectWork (Module : Type) where
  draft : ShaderObjectDraft
  calls : List (ToolCall Module)
  entries : List Entry

/-- What is done for a shader object that is left alone. -/
def ObjectWork.untouched {Module : Type} (info : ShaderObjectInfo) : ObjectWork Module :=
  ⟨{ info }, [], []⟩

variable {P : Platform}

namespace Instrumentor

/-- The warning for a shader object with a set layout at the reserved slot. -/
def conflictWarning (s : Instrumentor P) (reservation : Reservation) (call : String)
    (indexed : ShaderObjectInfo × Nat) : Entry :=
  Subsystem.warningReport s.settings (elementOf call indexed.2)
    (reservation.conflictMessage "Shader object" indexed.1.setLayouts.length)

/-- What is done for a shader object of a call that is made in a state. -/
structure Forwards {Module : Type} (s : Instrumentor P) (call : String)
    (indexed : ShaderObjectInfo × Nat) (work : ObjectWork Module) : Prop where
  stages : work.draft.info.stages = indexed.1.stages
  entryPoint : work.draft.info.entryPoint = indexed.1.entryPoint
  selected : work.draft.info.selected = indexed.1.selected
  /-- The application's set layouts are there as they were, and nothing is put behind them but
  placeholders and the instrumentation's layout. -/
  setLayouts : work.draft.info.setLayouts = indexed.1.setLayouts ∨
    ∃ reservation, s.reservation = some reservation ∧
      work.draft.info.setLayouts = indexed.1.setLayouts ++
        List.replicate (reservation.slot.toNat - indexed.1.setLayouts.length)
          ⟨reservation.placeholder, false⟩ ++ [⟨reservation.instrumentation, false⟩]
  /-- The code is the application's, or the words that are kept to be registered. -/
  code : work.draft.info.code = work.draft.made.elim indexed.1.code InstrumentedCode.code
  /-- A shader object with a set layout at the reserved slot is left alone. While shaders are
  rewritten this is warned of, once. -/
  conflict : ∀ reservation, s.reservation = some reservation →
    reservation.slot.toNat < indexed.1.setLayouts.length →
      work = ⟨{ info := indexed.1 }, [],
        if s.isInstrumenting then [s.conflictWarning reservation call indexed] else []⟩ ∧
        (s.conflictWarning reservation call indexed).isWarning = true
  /-- Nothing is warned of otherwise. -/
  unwarned : (∀ reservation, s.reservation = some reservation →
    indexed.1.setLayouts.length ≤ reservation.slot.toNat) →
      ∀ entry ∈ work.entries, entry.isWarning = false
  /-- The passes are given the application's code, and are told whether one of the application's
  set layouts is bindless. -/
  bindless : ∀ loaded settings answer, .load loaded settings answer ∈ work.calls →
    loaded = indexed.1.code ∧
      (settings.bindless = true ↔ ∃ set ∈ indexed.1.setLayouts, set.bindless = true)

/-- That between two states some shader objects are worked on. -/
structure Handles (s : Instrumentor P.observed) (works : List (ObjectWork P.tools.Module))
    (t : Instrumentor P.observed) : Prop where
  uses : s.toWorkbench.Uses (works.flatMap ObjectWork.calls) t.toWorkbench
  log : t.log = s.log ++ works.flatMap ObjectWork.entries

theorem chains_handles : Chains (Handles (P := P)) where
  refl s := ⟨Workbench.chains_uses.refl s.toWorkbench, (List.append_nil s.log).symm⟩
  trans {s t u first second} hfirst hsecond := by
    constructor
    · rw [List.flatMap_append]
      exact Workbench.chains_uses.trans hfirst.uses hsecond.uses
    · rw [List.flatMap_append, hsecond.log, hfirst.log, List.append_assoc]

/-- Shader objects that are left alone cost nothing. -/
theorem handles_untouched (s : Instrumentor P.observed) (infos : List ShaderObjectInfo) :
    s.Handles (infos.map .untouched) s := by
  induction infos with
  | nil => exact chains_handles.refl s
  | cons info rest ih => exact ⟨ih.uses, ih.log⟩

/-- That nothing is warned of between two states. -/
def WarnsOfNothing (s t : Instrumentor P) : Prop :=
  ∃ entries, t.log = s.log ++ entries ∧ ∀ entry ∈ entries, entry.isWarning = false

namespace WarnsOfNothing

theorem of_log_eq {s t : Instrumentor P} (h : t.log = s.log) : WarnsOfNothing s t :=
  ⟨[], h.trans (List.append_nil _).symm, fun _ hentry ↦ absurd hentry List.not_mem_nil⟩

/-- What the passes log is no warning, and neither is an internal error. -/
theorem runPasses (s : Instrumentor P) (resources : DeviceResources) (id : ShaderId) (code : Code)
    (bindless : Bool) (location : String) :
    WarnsOfNothing s (s.runPasses resources id code bindless location).2 := by
  obtain ⟨entries, hlog, hof⟩ := (s.passPlan resources).logs_run s.toWorkbench code id bindless
  have hquiet : ∀ entry ∈ entries, entry.isWarning = false :=
    fun entry hentry ↦ Entry.isWarning_of_isOfPasses (hof entry hentry)
  unfold Instrumentor.runPasses
  generalize (s.passPlan resources).run s.toWorkbench code id bindless = ran at hlog ⊢
  simp only []
  split
  · next words _ =>
    obtain ⟨cache, hkept, -⟩ :=
      exists_keep_eq ({ s with toWorkbench := ran.2 } : Instrumentor P) id words
    rw [hkept]
    exact ⟨entries, hlog, hquiet⟩
  · exact ⟨entries, hlog, hquiet⟩
  · exact ⟨entries, hlog, hquiet⟩
  · next fault _ =>
    refine ⟨entries ++ s.subsystem.errorEntries location (passFailure fault), ?_,
      List.forall_mem_append.mpr ⟨hquiet, ?_⟩⟩
    · simp only [internalError, hlog, List.append_assoc]
    · unfold Subsystem.errorEntries
      split
      · rw [List.forall_mem_singleton]
        exact Entry.isWarning_errorReport _ _ _
      · exact fun entry hentry ↦ absurd hentry List.not_mem_nil

/-- An attempt warns of nothing. -/
theorem instrumentCode (s : Instrumentor P) (code : Code) (bindless : Bool) (location : String) :
    WarnsOfNothing s (s.instrumentCode code bindless location).2 := by
  have hidentified : (s.identify code).2.log = s.log := by
    obtain ⟨nextId, hafter⟩ := exists_identify_eq s code
    rw [hafter]
  unfold Instrumentor.instrumentCode
  split
  · exact .of_log_eq rfl
  · next resources _ =>
    split
    · simp only []
      split
      · refine ⟨[_], congrArg (· ++ [_]) hidentified, ?_⟩
        rw [List.forall_mem_singleton]
        rfl
      · obtain ⟨entries, hlog, hquiet⟩ := WarnsOfNothing.runPasses (s.identify code).2 resources
          (s.identify code).1 code bindless location
        rw [hidentified] at hlog
        exact ⟨entries, hlog, hquiet⟩
    · exact .of_log_eq rfl

end WarnsOfNothing

/-- What is done for a shader object that is patched already, if it is asked for. -/
theorem exists_work_instrumentObject (location : String) (s : Instrumentor P.observed)
    (info : ShaderObjectInfo) (bindless : Bool) :
    ∃ work : ObjectWork P.tools.Module, work.draft = (instrumentObject location s info bindless).1 ∧
      s.Handles [work] (instrumentObject location s info bindless).2 ∧
      work.draft.info = { info with
        code := work.draft.made.elim info.code InstrumentedCode.code } ∧
      (∀ entry ∈ work.entries, entry.isWarning = false) ∧
      ∀ loaded settings answer, .load loaded settings answer ∈ work.calls →
        loaded = info.code ∧ settings.bindless = bindless := by
  unfold instrumentObject
  split
  · refine ⟨⟨{ info }, [], []⟩, rfl, ⟨rfl, (List.append_nil s.log).symm⟩, rfl, ?_, ?_⟩
    · exact fun entry hentry ↦ absurd hentry List.not_mem_nil
    · exact fun loaded settings answer hcall ↦ absurd hcall List.not_mem_nil
  · obtain ⟨calls, hwork, hused⟩ := exists_codeWork s info.code bindless location
    obtain ⟨entries, hlog, hquiet⟩ := WarnsOfNothing.instrumentCode s info.code bindless location
    have hhandles (draft : ShaderObjectDraft) : s.Handles [⟨draft, calls, entries⟩]
        (s.instrumentCode info.code bindless location).2 := by
      constructor
      · rwa [List.flatMap_singleton]
      · rwa [List.flatMap_singleton]
    have hloads : ∀ loaded settings answer, .load loaded settings answer ∈ calls →
        loaded = info.code ∧ settings.bindless = bindless := by
      intro loaded settings answer hcall
      obtain ⟨hcode, resources, -, rfl⟩ := hwork.eq_of_load hcall
      exact ⟨hcode, rfl⟩
    simp only []
    split
    · exact ⟨⟨{ info }, calls, entries⟩, rfl, hhandles _, rfl, hquiet, hloads⟩
    · next made _ =>
      exact ⟨⟨⟨{ info with code := made.code }, some made⟩, calls, entries⟩, rfl, hhandles _, rfl,
        hquiet, hloads⟩

/-- A shader object that is patched differs from the application's in its set layouts. -/
theorem setLayouts_patched (reservation : Reservation) (info : ShaderObjectInfo) :
    (info.patched reservation).setLayouts = info.setLayouts ++
      List.replicate (reservation.slot.toNat - info.setLayouts.length)
        ⟨reservation.placeholder, false⟩ ++ [⟨reservation.instrumentation, false⟩] := by
  unfold ShaderObjectInfo.patched Reservation.fillers
  simp

/-- Assumes: a call that is made while shaders are rewritten, on a device that is set up, and a later
state of it. What is done for one shader object. -/
theorem exists_work_prepareShaderObject {s t : Instrumentor P.observed} {reservation : Reservation}
    (hready : s.reservation = some reservation) (hactive : s.isInstrumenting = true)
    (hsettings : t.settings = s.settings) (call : String) (indexed : ShaderObjectInfo × Nat) :
    ∃ work : ObjectWork P.tools.Module, s.Forwards call indexed work ∧
      work.draft = (prepareShaderObject reservation call t indexed).1 ∧
      t.Handles [work] (prepareShaderObject reservation call t indexed).2 := by
  unfold prepareShaderObject
  simp only []
  rcases reservation.patch_cases (indexed.1.setLayouts.map SetLayout.handle) with
    ⟨hfree, hpatch⟩ | ⟨htaken, hpatch⟩
  · rw [List.length_map] at hfree
    rw [hpatch]
    obtain ⟨work, hdraft, hhandles, hinfo, hquiet, hloads⟩ := exists_work_instrumentObject
      (elementOf call indexed.2) t (indexed.1.patched reservation) indexed.1.isBindless
    refine ⟨work, ?_, hdraft, hhandles⟩
    exact
      { stages := by rw [hinfo]; rfl
        entryPoint := by rw [hinfo]; rfl
        selected := by rw [hinfo]; rfl
        setLayouts := by
          refine Or.inr ⟨reservation, hready, ?_⟩
          rw [hinfo]
          exact setLayouts_patched reservation indexed.1
        code := by rw [hinfo]; rfl
        conflict := by
          intro other hother hreaches
          obtain rfl := Option.some.inj (hready.symm.trans hother)
          exact absurd hreaches (Nat.not_lt_of_le hfree)
        unwarned := fun _ ↦ hquiet
        bindless := by
          intro loaded settings answer hcall
          obtain ⟨hcode, hbindless⟩ := hloads loaded settings answer hcall
          rw [hbindless]
          exact ⟨hcode, indexed.1.isBindless_iff⟩ }
  · rw [List.length_map] at htaken
    rw [hpatch]
    refine ⟨⟨{ info := indexed.1 }, [], [s.conflictWarning reservation call indexed]⟩, ?_, rfl, ?_⟩
    · exact
        { stages := rfl
          entryPoint := rfl
          selected := rfl
          setLayouts := Or.inl rfl
          code := rfl
          conflict := by
            intro other hother _
            obtain rfl := Option.some.inj (hready.symm.trans hother)
            rw [if_pos hactive]
            exact ⟨rfl, Entry.isWarning_warningReport _ _ _⟩
          unwarned := fun hfree ↦ absurd htaken (Nat.not_lt_of_le (hfree reservation hready))
          bindless := fun _ _ _ hcall ↦ absurd hcall List.not_mem_nil }
    · refine ⟨rfl, ?_⟩
      simp only [warn, record, List.length_map]
      rw [hsettings]
      rfl

/-- A shader object for which nothing is done. -/
theorem forwards_untouched {s : Instrumentor P} (h : s.reservation = none ∨ s.isInstrumenting = false)
    (Module : Type) (call : String) (indexed : ShaderObjectInfo × Nat) :
    s.Forwards call indexed (.untouched indexed.1 : ObjectWork Module) where
  stages := rfl
  entryPoint := rfl
  selected := rfl
  setLayouts := Or.inl rfl
  code := rfl
  conflict reservation hready _ := by
    rcases h with hnone | hoff
    · rw [hnone] at hready
      cases hready
    · rw [hoff]
      exact ⟨rfl, Entry.isWarning_warningReport _ _ _⟩
  unwarned _ _ hentry := absurd hentry List.not_mem_nil
  bindless _ _ _ hcall := absurd hcall List.not_mem_nil

/-- Whatever the state, the device and the tools: what is done for each shader object of a call, the
drafts, the calls to the tools and the entries in the log, in order. -/
theorem shader_objects_forwarded (s : Instrumentor P.observed) (infos : List ShaderObjectInfo)
    (call : String) : ∃ works : List (ObjectWork P.tools.Module),
      List.Forall₂ (s.Forwards call) infos.zipIdx works ∧
        (s.prepareShaderObjects infos call).1 = works.map ObjectWork.draft ∧
        s.Handles works (s.prepareShaderObjects infos call).2 := by
  by_cases hspared : s.reservation = none ∨ s.isInstrumenting = false
  · have hnumbered {β : Type} (f : ShaderObjectInfo → β) :
        infos.map f = infos.zipIdx.map fun indexed ↦ f indexed.1 := by
      conv_lhs => rw [← List.zipIdx_map_fst 0 infos, List.map_map]
      rfl
    rw [prepareShaderObjects_of_spared hspared infos call]
    refine ⟨infos.map .untouched, ?_, ?_, ?_⟩
    · rw [hnumbered, List.forall₂_map_right_iff, List.forall₂_same]
      exact fun indexed _ ↦ forwards_untouched hspared _ call indexed
    · rw [List.map_map]
      rfl
    · exact handles_untouched s infos
  · obtain ⟨hset, hon⟩ := not_or.mp hspared
    obtain ⟨reservation, hready⟩ := Option.ne_none_iff_exists'.mp hset
    have hactive : s.isInstrumenting = true := by rwa [Bool.not_eq_false] at hon
    have hprepared : s.prepareShaderObjects infos call =
        thread (prepareShaderObject reservation call) s infos.zipIdx := by
      unfold prepareShaderObjects
      rw [hready]
      exact if_pos hactive
    have hstep (t : Instrumentor P.observed) (indexed : ShaderObjectInfo × Nat)
        (hsettings : t.settings = s.settings) :
        (prepareShaderObject reservation call t indexed).2.settings = s.settings ∧
          ∃ work : ObjectWork P.tools.Module, s.Forwards call indexed work ∧
            work.draft = (prepareShaderObject reservation call t indexed).1 ∧
            ([] : List Attempt) = [] ∧
            t.Handles [work] (prepareShaderObject reservation call t indexed).2 := by
      have hkept := SameHoldings.rewrites.prepareShaderObject reservation call t indexed
      obtain ⟨work, hwork, hdraft, hhandles⟩ :=
        exists_work_prepareShaderObject hready hactive hsettings call indexed
      exact ⟨hkept.settings.trans hsettings, work, hwork, hdraft, rfl, hhandles⟩
    obtain ⟨works, hworks, hdrafts, -, hhandles⟩ := exists_sheets_thread_of_keeps
      (fun t : Instrumentor P.observed ↦ t.settings = s.settings) chains_handles hstep rfl
      infos.zipIdx
    rw [hprepared]
    rw [List.flatMap_singleton'] at hhandles
    exact ⟨works, hworks, hdrafts.symm, hhandles⟩

end Instrumentor

/-- A device is set up with the reserved slot 7, and instrumentation is switched off. A shader object
with eight set layouts reaches the slot, but there is no warning of it. -/
theorem Session.silent_where_off :
    let first : Session (Simulation.platform false {}) := start {} {} [] []
    let s := (first.run [.setUpDevice {}, .internalError "vkCmdWaitEvents" "deadlock"]).state
    let info : ShaderObjectInfo :=
      { stages := .fragment, code := [], setLayouts := List.replicate 8 ⟨⟨16⟩, false⟩,
        selected := false, entryPoint := "main" }
    let after := (s.prepareShaderObjects [info] "vkCreateShadersEXT").2
    s.reservedSlot = some 7 ∧ 7 < info.setLayouts.length ∧
      (after.log.filter Entry.isWarning).length ≠ (s.log.filter Entry.isWarning).length + 1 := by
  decide +kernel

end ShaderGuard
