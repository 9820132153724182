import ShaderGuard.Proofs.LiteralStrings
import ShaderGuard.Proofs.Notes
import ShaderGuard.Simulation.World

/-!
# Libraries that are created anew in Vulkan

A library is created anew by one call to the driver, or by none if the name of an entry point has a
null character in it. An audited driver answers as the driver does and writes every call down
(`Driver.audited`), so what is proved of it says what any driver is asked.

The request is put together from three lists: the stages, their names and the code to chain to them.
They are as long as each other and in the same order, so that every stage is requested with its own
name and its own module or code (`forall₂_stageRequests`). Besides its stages the request says which
parts of a pipeline the library is. It declares the fragment shader if there is a fragment stage,
and the shaders before rasterization otherwise. That fits the stages of every library whose stages
are of one kind, and of no other (`LibraryRequest.Recreates.fits_iff`): of one with both kinds the
part before rasterization is not declared (`fragment_alone_declared`).
-/

set_option autoImplicit false

namespace ShaderGuard.Vulkan

variable {σ : Type}

/-! ### Audited drivers -/

/-- A call to a driver, with its answer. -/
inductive DriverCall where
  | createDescriptorSetLayout (bindings : List LayoutBinding) (answer : Except ResultCode UInt64)
  | createPipelineLayout (layouts : List UInt64) (answer : Except ResultCode UInt64)
  | createShaderModule (code : Code) (answer : Except ResultCode UInt64)
  | createGraphicsPipelines (cache : UInt64) (request : LibraryRequest)
      (answer : Except ResultCode UInt64)
  | destroyDescriptorSetLayout (layout : UInt64)
  | destroyPipelineLayout (layout : UInt64)
  | destroyShaderModule (module : UInt64)
  | destroyPipeline (pipeline : UInt64)

/-- What a function has returned, and its call written down before the calls so far. -/
def audit (returned : Except ResultCode UInt64 × σ) (call : Except ResultCode UInt64 → DriverCall)
    (calls : List DriverCall) : Except ResultCode UInt64 × (σ × List DriverCall) :=
  (returned.1, (returned.2, call returned.1 :: calls))

/-- A driver that writes every call down, the latest first. -/
def Driver.audited (driver : Driver σ) : Driver (σ × List DriverCall) where
  createDescriptorSetLayout bindings s :=
    audit (driver.createDescriptorSetLayout bindings s.1) (.createDescriptorSetLayout bindings) s.2
  createPipelineLayout layouts s :=
    audit (driver.createPipelineLayout layouts s.1) (.createPipelineLayout layouts) s.2
  createShaderModule code s :=
    audit (driver.createShaderModule code s.1) (.createShaderModule code) s.2
  createGraphicsPipelines cache request s :=
    audit (driver.createGraphicsPipelines cache request s.1)
      (.createGraphicsPipelines cache request) s.2
  destroyDescriptorSetLayout layout s :=
    (driver.destroyDescriptorSetLayout layout s.1, .destroyDescriptorSetLayout layout :: s.2)
  destroyPipelineLayout layout s :=
    (driver.destroyPipelineLayout layout s.1, .destroyPipelineLayout layout :: s.2)
  destroyShaderModule module s :=
    (driver.destroyShaderModule module s.1, .destroyShaderModule module :: s.2)
  destroyPipeline pipeline s :=
    (driver.destroyPipeline pipeline s.1, .destroyPipeline pipeline :: s.2)

/-! ### Names -/

/-- A text has a zero byte if it has a null character. -/
theorem nulIndex?_eq_none_iff (text : String) :
    nulIndex? text = none ↔ '\x00' ∉ text.toList := by
  unfold nulIndex?
  rw [List.findIdx?_eq_none_iff]
  constructor
  · intro hbytes hnull
    have hzero : (0 : UInt8) ∈ text.toList.flatMap String.utf8EncodeChar :=
      List.mem_flatMap.mpr ⟨'\x00', hnull, List.mem_cons_self⟩
    cases hbytes 0 hzero
  · intro hnull byte hbyte
    obtain ⟨c, hc, hof⟩ := List.mem_flatMap.mp hbyte
    have hchar : c ≠ '\x00' := fun heq ↦ hnull (heq ▸ hc)
    exact beq_false_of_ne (Text.Utf8.ne_zero_of_mem_utf8EncodeChar hchar hof)

/-- A text is the name of itself, or it is broken at its first zero byte. -/
theorem EntryName.ofText_cases (text : String) :
    (∃ index, nulIndex? text = some index ∧ ofText text = .error index) ∨
      ∃ name, name.text = text ∧ ofText text = .ok name := by
  unfold ofText
  split
  · next index hbroken => exact Or.inl ⟨index, hbroken, rfl⟩
  · next hwhole => exact Or.inr ⟨⟨text, hwhole⟩, rfl, rfl⟩

/-- That a stage is the first one whose entry point cannot be passed on, with the index at which its
name is broken. -/
def FirstBroken (stages : List ShaderStage) (index : Nat) : Prop :=
  ∃ older stage newer, stages = older ++ stage :: newer ∧
    (∀ earlier ∈ older, '\x00' ∉ earlier.entryPoint.toList) ∧
    nulIndex? stage.entryPoint = some index

/-- The entry points of some stages are broken at the first that is, or each has its name. -/
theorem mapM_ofText_cases (stages : List ShaderStage) :
    (∃ index, FirstBroken stages index ∧
        (stages.mapM fun stage ↦ EntryName.ofText stage.entryPoint) = .error index) ∨
      ∃ names, List.Forall₂ (fun (stage : ShaderStage) name ↦ name.text = stage.entryPoint)
          stages names ∧
        (stages.mapM fun stage ↦ EntryName.ofText stage.entryPoint) = .ok names := by
  induction stages with
  | nil => exact Or.inr ⟨[], List.Forall₂.nil, rfl⟩
  | cons stage rest ih =>
    rcases EntryName.ofText_cases stage.entryPoint with
      ⟨index, hbroken, hread⟩ | ⟨name, hname, hread⟩
    · refine Or.inl ⟨index, ⟨[], stage, rest, rfl, ?_, hbroken⟩, ?_⟩
      · exact fun earlier hearlier ↦ absurd hearlier List.not_mem_nil
      · rw [List.mapM_cons, hread]
        rfl
    · have hwhole : '\x00' ∉ stage.entryPoint.toList := by
        rw [← nulIndex?_eq_none_iff, ← hname]
        exact name.unbroken
      rcases ih with ⟨index, ⟨older, other, newer, rfl, hbefore, hbroken⟩, hrest⟩ |
        ⟨names, hnames, hrest⟩
      · refine Or.inl ⟨index, ⟨stage :: older, other, newer, rfl, ?_, hbroken⟩, ?_⟩
        · exact List.forall_mem_cons.mpr ⟨hwhole, hbefore⟩
        · rw [List.mapM_cons, hread, hrest]
          rfl
      · refine Or.inr ⟨name :: names, List.Forall₂.cons hname hnames, ?_⟩
        rw [List.mapM_cons, hread, hrest]
        rfl

/-! ### Requests -/

/-- That a stage is requested as the application gave it, with its module if it has one and
otherwise with its code. -/
structure StageRequest.Repeats (stage : ShaderStage) (request : StageRequest) : Prop where
  stages : request.stages = stage.stages.toVulkan
  entryPoint : request.entryPoint = stage.entryPoint
  module : stage.module.isNull = false →
    request.module = stage.module.toVulkan ∧ request.chained = none
  chained : stage.module.isNull = true →
    request.module = 0 ∧ request.chained = some (stage.inlined.elim [] InlineCode.code)

theorem StageRequest.repeats_ofStage {stage : ShaderStage} {name : EntryName}
    (hname : name.text = stage.entryPoint) :
    StageRequest.Repeats stage (.ofStage stage name (chainedCode stage)) where
  stages := rfl
  entryPoint := hname
  module hgiven := by
    unfold ofStage
    rw [hgiven]
    exact ⟨rfl, rfl⟩
  chained hnull := by
    unfold ofStage chainedCode
    rw [hnull]
    refine ⟨rfl, congrArg some ?_⟩
    cases stage.inlined <;> rfl

/-- Assumes: names that are those of the entry points of some stages, one by one. The three lists
that make up the requests stay in step. -/
theorem forall₂_stageRequests {stages : List ShaderStage} {names : List EntryName}
    (h : List.Forall₂ (fun (stage : ShaderStage) name ↦ name.text = stage.entryPoint)
      stages names) :
    List.Forall₂ StageRequest.Repeats stages (stageRequests stages names) := by
  induction h with
  | nil => exact List.Forall₂.nil
  | cons hname _ ih => exact List.Forall₂.cons (StageRequest.repeats_ofStage hname) ih

/-- Whether a stage is a fragment stage. -/
def isFragment (stage : ShaderStage) : Bool := stage.stages.contains ShaderStages.fragment

/-- Whether a request declares that the library is a part of a pipeline. -/
def LibraryRequest.declares (request : LibraryRequest) (part : UInt32) : Bool :=
  request.libraryFlags &&& part != 0

/-- That a request is for a library like the one that was created from `info`. -/
structure LibraryRequest.Recreates (request : LibraryRequest) (info : GraphicsInfo) : Prop where
  stages : List.Forall₂ StageRequest.Repeats info.stages request.stages
  flags : request.flags = info.flags.toVulkan ||| CreationFlags.library.toVulkan
  layout : request.layout = info.layout.elim 0 fun layout ↦ layout.handle.toVulkan
  fragment : request.declares fragmentShaderLibrary = true ↔ ∃ stage ∈ info.stages, isFragment stage
  preRasterization :
    request.declares preRasterizationLibrary = true ↔ ∀ stage ∈ info.stages, ¬ isFragment stage

/-- That a request declares just the parts that some stages belong to. -/
def LibraryRequest.Fits (request : LibraryRequest) (stages : List ShaderStage) : Prop :=
  (request.declares fragmentShaderLibrary = true ↔ ∃ stage ∈ stages, isFragment stage) ∧
    (request.declares preRasterizationLibrary = true ↔ ∃ stage ∈ stages, ¬ isFragment stage)

/-- That some stages are of both kinds. -/
def OfBothKinds (stages : List ShaderStage) : Prop :=
  (∃ stage ∈ stages, isFragment stage) ∧ ∃ stage ∈ stages, ¬ isFragment stage

namespace LibraryRequest

theorem anyFragment_iff (stages : List ShaderStage) :
    anyFragment stages = true ↔ ∃ stage ∈ stages, isFragment stage :=
  List.any_eq_true

/-- A request declares one part, by whether there is a fragment stage. -/
theorem declares_ofInfo (info : GraphicsInfo) (names : List EntryName) :
    (ofInfo info names).declares fragmentShaderLibrary = anyFragment info.stages ∧
      (ofInfo info names).declares preRasterizationLibrary = !anyFragment info.stages := by
  have hflags : (ofInfo info names).libraryFlags =
      if anyFragment info.stages then fragmentShaderLibrary else preRasterizationLibrary := rfl
  unfold declares
  rw [hflags]
  cases anyFragment info.stages <;> decide

theorem recreates_ofInfo {info : GraphicsInfo} {names : List EntryName}
    (h : List.Forall₂ (fun (stage : ShaderStage) name ↦ name.text = stage.entryPoint)
      info.stages names) : (ofInfo info names).Recreates info where
  stages := forall₂_stageRequests h
  flags := rfl
  layout := by
    show (info.layout.map fun layout ↦ layout.handle.toVulkan).getD 0 = _
    cases info.layout <;> rfl
  fragment := by
    rw [(declares_ofInfo info names).1, anyFragment_iff]
  preRasterization := by
    rw [(declares_ofInfo info names).2, Bool.not_eq_true', ← Bool.not_eq_true, anyFragment_iff]
    simp only [not_exists, not_and]

/-- Assumes: some stages. The declared parts fit them exactly if they are not of both kinds. -/
theorem Recreates.fits_iff {request : LibraryRequest} {info : GraphicsInfo}
    (h : request.Recreates info) (hsome : info.stages ≠ []) :
    request.Fits info.stages ↔ ¬ OfBothKinds info.stages := by
  unfold Fits OfBothKinds
  rw [h.fragment, h.preRasterization]
  constructor
  · rintro ⟨-, hrest⟩ ⟨⟨stage, hmem, hfragment⟩, hother⟩
    exact hrest.mpr hother stage hmem hfragment
  · intro hnot
    refine ⟨Iff.rfl, fun hnone ↦ ?_, fun hother stage hmem hfragment ↦ ?_⟩
    · obtain ⟨stage, hmem⟩ := List.exists_mem_of_ne_nil _ hsome
      exact ⟨stage, hmem, hnone stage hmem⟩
    · exact hnot ⟨⟨stage, hmem, hfragment⟩, hother⟩

end LibraryRequest

/-! ### The call -/

/-- What the device answers is what the driver has returned. -/
def Passes (answer : Except ResultCode UInt64) (value : Except Fault PipelineHandle) : Prop :=
  match answer with
  | .ok raw => value = .ok (.ofVulkan raw)
  | .error _ => ∃ reason, value = .error (.backend reason)

theorem createLibrary_of_error {info : GraphicsInfo} {fault : Fault}
    (h : entryNames info.stages = .error fault) (driver : Driver σ) (cache : UInt64) (state : σ) :
    createLibrary driver cache info state = ⟨.error fault, [], state⟩ := by
  unfold createLibrary
  rw [h]

/-- Assumes: that all names can be passed on. The driver is called once. -/
theorem createLibrary_of_ok {info : GraphicsInfo} {names : List EntryName}
    (h : entryNames info.stages = .ok names) (driver : Driver σ) (cache : UInt64) (state : σ)
    (calls : List DriverCall) :
    let reply := createLibrary driver.audited cache info (state, calls)
    ∃ answer, reply.state.2 = .createGraphicsPipelines cache (.ofInfo info names) answer :: calls ∧
      Passes answer reply.value := by
  unfold createLibrary
  simp only [h]
  refine ⟨(driver.createGraphicsPipelines cache (.ofInfo info names) state).1, ?_⟩
  simp only [creation, Driver.audited, audit]
  cases (driver.createGraphicsPipelines cache (.ofInfo info names) state).1 with
  | ok raw => exact ⟨rfl, rfl⟩
  | error code => exact ⟨rfl, _, rfl⟩

/-- Assumes: a library with stages, and any driver, in any state.

If the name of an entry point has a null character, the answer is what is wrong with the first such
name, and the driver is not called. Otherwise the driver is called once, for a library like the
given one, and what it returns is passed on. The parts that are declared fit the stages exactly if
these are not of both kinds. -/
theorem library_recreated (driver : Driver σ) (cache : UInt64) (info : GraphicsInfo)
    (hsome : info.stages ≠ []) (state : σ) (calls : List DriverCall) :
    let reply := createLibrary driver.audited cache info (state, calls)
    ((∃ stage ∈ info.stages, '\x00' ∈ stage.entryPoint.toList) →
      reply.state = (state, calls) ∧
        ∃ index, FirstBroken info.stages index ∧ reply.value = .error (brokenName index)) ∧
    ((∀ stage ∈ info.stages, '\x00' ∉ stage.entryPoint.toList) →
      ∃ request answer, reply.state.2 = .createGraphicsPipelines cache request answer :: calls ∧
        Passes answer reply.value ∧ request.Recreates info ∧
        (request.Fits info.stages ↔ ¬ OfBothKinds info.stages)) := by
  intro reply
  rcases mapM_ofText_cases info.stages with ⟨index, hfirst, hread⟩ | ⟨names, hnames, hread⟩
  · have herror : entryNames info.stages = .error (brokenName index) := by
      unfold entryNames
      rw [hread]
      rfl
    have hreply := createLibrary_of_error herror driver.audited cache (state, calls)
    refine ⟨fun _ ↦ ?_, fun hwhole ↦ ?_⟩
    · rw [show reply = _ from hreply]
      exact ⟨rfl, index, hfirst, rfl⟩
    · obtain ⟨older, stage, newer, hsplit, -, hbroken⟩ := hfirst
      have hmem : stage ∈ info.stages := by
        rw [hsplit]
        exact List.mem_append_right _ List.mem_cons_self
      have hnone := (nulIndex?_eq_none_iff stage.entryPoint).mpr (hwhole stage hmem)
      cases hnone.symm.trans hbroken
  · have hok : entryNames info.stages = .ok names := by
      unfold entryNames
      rw [hread]
      rfl
    refine ⟨fun hbroken ↦ ?_, fun _ ↦ ?_⟩
    · obtain ⟨stage, hmem, hnull⟩ := hbroken
      obtain ⟨name, -, hname⟩ := exists_zip_of_forall₂ hnames hmem
      refine absurd hnull ((nulIndex?_eq_none_iff stage.entryPoint).mp ?_)
      rw [← hname]
      exact name.unbroken
    · obtain ⟨answer, hcall, hpasses⟩ := createLibrary_of_ok hok driver cache state calls
      have hrecreates := LibraryRequest.recreates_ofInfo hnames
      exact ⟨_, answer, hcall, hpasses, hrecreates, hrecreates.fits_iff hsome⟩

/-- A library of stages that have their code in modules. -/
def libraryOf (stages : List (ShaderStages × UInt64)) : GraphicsInfo :=
  { flags := CreationFlags.library
    stages := stages.map fun stage ↦ ⟨stage.1, ⟨stage.2⟩, some [0x07230203], none, "main"⟩
    layout := none
    activeSlots := .empty
    libraries := [] }

/-- A library with a vertex and a geometry shader is declared to be the part before
rasterization. -/
theorem library_recreated_before_rasterization :
    let info := libraryOf [(⟨0x1⟩, 1), (⟨0x8⟩, 2)]
    let reply := createLibrary Simulation.World.driver.audited 0 info ({}, [])
    info.stages ≠ [] ∧ ∃ request answer,
      reply.state.2 = [.createGraphicsPipelines 0 request answer] ∧
        request.stages.map StageRequest.module = [1, 2] ∧ request.Fits info.stages := by
  intro info reply
  have hsome : info.stages ≠ [] := List.cons_ne_nil _ _
  have hwhole : ∀ stage ∈ info.stages, '\x00' ∉ stage.entryPoint.toList := by decide +kernel
  have hkind : ¬ OfBothKinds info.stages := by
    rintro ⟨hfragment, -⟩
    exact absurd ((LibraryRequest.anyFragment_iff info.stages).mpr hfragment) (by decide)
  obtain ⟨-, hcalled⟩ := library_recreated Simulation.World.driver 0 info hsome {} []
  obtain ⟨request, answer, hcall, -, hrecreates, hfits⟩ := hcalled hwhole
  refine ⟨hsome, request, answer, hcall, ?_, hfits.mpr hkind⟩
  obtain ⟨first, rest, hfirst, hrest, hrequests⟩ := List.forall₂_cons_left_iff.mp hrecreates.stages
  obtain ⟨second, last, hsecond, hlast, rfl⟩ := List.forall₂_cons_left_iff.mp hrest
  obtain rfl := List.forall₂_nil_left_iff.mp hlast
  rw [hrequests, List.map_cons, List.map_cons, (hfirst.module rfl).1, (hsecond.module rfl).1]
  rfl

/-- A library with a vertex and a fragment shader is created anew with both of them, and it is not
declared to be the part before rasterization. -/
theorem fragment_alone_declared :
    let info := libraryOf [(⟨0x1⟩, 1), (ShaderStages.fragment, 2)]
    let reply := createLibrary Simulation.World.driver.audited 0 info ({}, [])
    OfBothKinds info.stages ∧ ∃ request answer,
      reply.state.2 = [.createGraphicsPipelines 0 request answer] ∧
        request.stages.map StageRequest.stages = [0x1, 0x10] ∧
        request.declares preRasterizationLibrary = false ∧ ¬ request.Fits info.stages := by
  intro info reply
  have hsome : info.stages ≠ [] := List.cons_ne_nil _ _
  have hkinds : OfBothKinds info.stages := by
    refine ⟨⟨_, List.mem_cons_of_mem _ List.mem_cons_self, ?_⟩, _, List.mem_cons_self, ?_⟩
    · rfl
    · exact Bool.false_ne_true
  let main : EntryName := ⟨"main", by decide +kernel⟩
  have hnames : entryNames info.stages = .ok [main, main] := rfl
  have hrecreates : (LibraryRequest.ofInfo info [main, main]).Recreates info :=
    LibraryRequest.recreates_ofInfo (.cons rfl (.cons rfl .nil))
  obtain ⟨answer, hcall, -⟩ := createLibrary_of_ok hnames Simulation.World.driver 0 {} []
  have hdeclared := (LibraryRequest.declares_ofInfo info [main, main]).2
  refine ⟨hkinds, _, answer, hcall, rfl, hdeclared.trans rfl, ?_⟩
  rw [hrecreates.fits_iff hsome]
  exact not_not_intro hkinds

end ShaderGuard.Vulkan
