import ShaderGuard.Proofs.Frame
import ShaderGuard.Proofs.Stages

/-!
# Audited devices

What the library does to a device is seen by the device alone. An audited device answers as the
device does and writes every call down, with the answer (`Device.audited`). It is itself a device,
so what is proved of every platform holds of an audited one, and what is proved of an audited
platform says what the library asks of any device, whatever the device answers.

`KnowsModules.audited` is the first use: the calls tell which modules were made of which words. Few
hooks ask for anything but layouts (`Session.onlyLayouts_step`).
-/

set_option autoImplicit false

namespace ShaderGuard

/-- A call to a device, with its answer. -/
inductive DeviceCall where
  | createSetLayout (bindings : List SetBinding) (answer : Except Fault SetLayoutHandle)
  | createPipelineLayout (layouts : List SetLayoutHandle)
      (answer : Except Fault PipelineLayoutHandle)
  | createModule (code : Code) (answer : Except Fault ModuleHandle)
  | createLibrary (info : GraphicsInfo) (answer : Except Fault PipelineHandle)
  | destroySetLayout (layout : SetLayoutHandle)
  | destroyPipelineLayout (layout : PipelineLayoutHandle)
  | destroyModule (module : ModuleHandle)
  | destroyPipeline (pipeline : PipelineHandle)

/-- Whether a call neither creates nor destroys a layout. -/
def DeviceCall.besidesLayouts : DeviceCall → Bool
  | .createSetLayout _ _ | .createPipelineLayout _ _ | .destroySetLayout _
  | .destroyPipelineLayout _ => false
  | _ => true

/-- Whether a call asks for an object to be created, whatever the answer. -/
def DeviceCall.asksToCreate : DeviceCall → Bool
  | .createSetLayout _ _ | .createPipelineLayout _ _ | .createModule _ _ | .createLibrary _ _ =>
    true
  | _ => false

/-- The answer of a device, and the call written down before the calls so far. -/
def Reply.audit {σ α : Type} (reply : Reply σ α) (call : α → DeviceCall)
    (calls : List DeviceCall) : Reply (σ × List DeviceCall) α :=
  ⟨reply.value, reply.notes, (reply.state, call reply.value :: calls)⟩

/-- A device that writes every call down, the latest first. -/
def Device.audited {σ : Type} (device : Device σ) : Device (σ × List DeviceCall) where
  createSetLayout bindings s :=
    (device.createSetLayout bindings s.1).audit (.createSetLayout bindings) s.2
  createPipelineLayout layouts s :=
    (device.createPipelineLayout layouts s.1).audit (.createPipelineLayout layouts) s.2
  createModule code s := (device.createModule code s.1).audit (.createModule code) s.2
  createLibrary info s := (device.createLibrary info s.1).audit (.createLibrary info) s.2
  destroySetLayout layout s :=
    (device.destroySetLayout layout s.1).audit (fun _ ↦ .destroySetLayout layout) s.2
  destroyPipelineLayout layout s :=
    (device.destroyPipelineLayout layout s.1).audit (fun _ ↦ .destroyPipelineLayout layout) s.2
  destroyModule module s :=
    (device.destroyModule module s.1).audit (fun _ ↦ .destroyModule module) s.2
  destroyPipeline pipeline s :=
    (device.destroyPipeline pipeline s.1).audit (fun _ ↦ .destroyPipeline pipeline) s.2

/-- A platform whose device is audited. -/
abbrev Platform.audited (P : Platform) : Platform :=
  { P with
    DeviceState := P.DeviceState × List DeviceCall
    device := P.device.audited }

namespace Instrumentor

variable {P : Platform}

/-- The calls to the device, the latest first. -/
def calls (s : Instrumentor P.audited) : List DeviceCall := s.device.2

theorem calls_createSetLayout (s : Instrumentor P.audited) (bindings : List SetBinding) :
    (s.createSetLayout bindings).2.calls =
      .createSetLayout bindings (s.createSetLayout bindings).1 :: s.calls := rfl

theorem calls_createPipelineLayout (s : Instrumentor P.audited) (layouts : List SetLayoutHandle) :
    (s.createPipelineLayout layouts).2.calls =
      .createPipelineLayout layouts (s.createPipelineLayout layouts).1 :: s.calls := rfl

theorem calls_createModule (s : Instrumentor P.audited) (code : Code) :
    (s.createModule code).2.calls = .createModule code (s.createModule code).1 :: s.calls := rfl

theorem calls_createLibrary (s : Instrumentor P.audited) (info : GraphicsInfo) :
    (s.createLibrary info).2.calls = .createLibrary info (s.createLibrary info).1 :: s.calls := rfl

/-- Instrumenting code is no affair of the device. -/
theorem device_instrumentCode (s : Instrumentor P) (code : Code) (bindless : Bool)
    (location : String) : (s.instrumentCode code bindless location).2.device = s.device := by
  obtain ⟨bench, subsystem, cache, nextId, hafter, -⟩ :=
    exists_instrumentCode_eq s code bindless location
  rw [hafter]

theorem calls_instrumentCode (s : Instrumentor P.audited) (code : Code) (bindless : Bool)
    (location : String) : (s.instrumentCode code bindless location).2.calls = s.calls :=
  congrArg Prod.snd (device_instrumentCode s code bindless location)

theorem device_prepareShaderObject (reservation : Reservation) (call : String) (s : Instrumentor P)
    (indexed : ShaderObjectInfo × Nat) :
    (prepareShaderObject reservation call s indexed).2.device = s.device := by
  simp only [prepareShaderObject]
  split
  · rfl
  · simp only [instrumentObject]
    split
    · rfl
    · split <;> exact device_instrumentCode s _ _ _

/-- Preparing shader objects is no affair of the device either. -/
theorem device_prepareShaderObjects (s : Instrumentor P) (infos : List ShaderObjectInfo)
    (call : String) : (s.prepareShaderObjects infos call).2.device = s.device := by
  rcases s.prepareShaderObjects_cases infos call with ⟨hkept, -⟩ | ⟨reservation, hprepared, -⟩
  · rw [hkept]
  · rw [hprepared]
    exact thread_invariant _ (fun t : Instrumentor P ↦ t.device = s.device)
      (fun t indexed h ↦ (device_prepareShaderObject reservation call t indexed).trans h) s _ rfl

/-- Creations are prepared with further calls, and none of the earlier ones is lost. -/
theorem calls_suffix_of_rewrites :
    Rewrites fun (s : Instrumentor P.audited) _ t ↦ s.calls <:+ t.calls where
  refl _ := List.suffix_rfl
  trans := List.IsSuffix.trans
  record _ _ := List.suffix_rfl
  internalError _ _ _ := List.suffix_rfl
  createModule s code := by
    rw [calls_createModule]
    exact List.suffix_cons _ _
  createLibrary s info := by
    rw [calls_createLibrary]
    exact List.suffix_cons _ _
  instrumentCode s code bindless location := by
    have hcalls := calls_instrumentCode s code bindless location
    exact ⟨[], hcalls.symm⟩

/-- That between two states the device is asked at most to create and destroy layouts. -/
def OnlyLayouts (s t : Instrumentor P.audited) : Prop :=
  t.calls.filter DeviceCall.besidesLayouts = s.calls.filter DeviceCall.besidesLayouts

namespace OnlyLayouts

theorem of_device_eq {s t : Instrumentor P.audited} (h : t.device = s.device) :
    OnlyLayouts s t := by
  unfold OnlyLayouts calls
  rw [h]

theorem reserves : Reserves (P := P.audited) OnlyLayouts where
  refl _ := rfl
  trans hst htu := htu.trans hst
  destroySetLayout _ _ := rfl
  destroyPipelineLayout _ _ := rfl
  createSetLayout _ _ := rfl
  createPipelineLayout _ _ := rfl
  internalError _ _ _ := rfl

theorem setUpDevice (s : Instrumentor P.audited) (capabilities : Capabilities) :
    OnlyLayouts s (s.setUpDevice capabilities).2 :=
  reserves.setUpDevice (fun _ _ _ _ ↦ rfl) s capabilities

theorem tearDownDevice (s : Instrumentor P.audited) : OnlyLayouts s s.tearDownDevice :=
  reserves.toClears.tearDownDevice (fun _ ↦ rfl) s

end OnlyLayouts

/-- Whether a module was made of some words, as the calls have it. -/
def createdFrom (s : Instrumentor P.audited) (code : Code) (module : ModuleHandle) : Prop :=
  .createModule code (.ok module) ∈ s.calls

end Instrumentor

namespace Session

open Instrumentor

variable {P : Platform}

/-- Hooks that leave the holdings alone ask the device for layouts at most, unless they prepare
pipelines. -/
theorem onlyLayouts_step (t : Session P.audited) {hook : Hook} (h : hook.leavesHoldings = true)
    (hprepare : ∀ infos location, hook ≠ .preparePipelines infos location) :
    OnlyLayouts t.state (t.step hook).state := by
  by_cases hreports : hook.reportsOnly = true
  · obtain ⟨log, subsystem, selectedModules, hafter, -⟩ := onlyReports_step t hreports
    refine .of_device_eq ?_
    rw [hafter]
  · cases hook with
    | setUpDevice capabilities => exact .setUpDevice t.state capabilities
    | tearDownDevice => exact .tearDownDevice t.state
    | preparePipelines infos location => exact absurd rfl (hprepare infos location)
    | prepareShaderObjects infos call =>
      exact .of_device_eq (device_prepareShaderObjects t.state infos call)
    | _ => first | (cases h; done) | exact absurd rfl hreports

end Session

namespace KnowsModules

open Instrumentor

variable {P : Platform}

private theorem grows_of_suffix {s t : Instrumentor P.audited} (hcalls : s.calls <:+ t.calls)
    (hoff : s.isInstrumenting = false → t.isInstrumenting = false) : s.Grows createdFrom t :=
  ⟨fun _ _ h ↦ hcalls.subset h, hoff⟩

/-- The calls to an audited device tell which modules were made of which words. -/
theorem audited : KnowsModules (createdFrom (P := P)) where
  createModule s code module h := by
    unfold createdFrom
    rw [calls_createModule, h]
    exact List.mem_cons_self
  grows :=
    { refl := fun _ ↦ ⟨fun _ _ h ↦ h, fun h ↦ h⟩
      trans := fun hst htu ↦
        ⟨fun _ _ h ↦ htu.made _ _ (hst.made _ _ h), fun h ↦ htu.off (hst.off h)⟩
      record := fun s entry ↦ grows_of_suffix (calls_suffix_of_rewrites.record s entry)
        (off_of_rewrites.record s entry)
      internalError := fun s location message ↦ grows_of_suffix
        (calls_suffix_of_rewrites.internalError s location message)
        (off_of_rewrites.internalError s location message)
      createModule := fun s code ↦ grows_of_suffix (calls_suffix_of_rewrites.createModule s code)
        (off_of_rewrites.createModule s code)
      createLibrary := fun s info ↦ grows_of_suffix (calls_suffix_of_rewrites.createLibrary s info)
        (off_of_rewrites.createLibrary s info)
      instrumentCode := fun s code bindless location ↦ grows_of_suffix
        (calls_suffix_of_rewrites.instrumentCode s code bindless location)
        (off_of_rewrites.instrumentCode s code bindless location) }

end KnowsModules

end ShaderGuard
