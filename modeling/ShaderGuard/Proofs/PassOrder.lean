import ShaderGuard.Proofs.ToolCalls

/-!
# The order of the passes

The settings say which passes run on a shader, and nothing else has a say in it: not what the passes
before have found, and not what the shader is. They run in one order (`PassStep.order`), each once,
each on the module that the one before it has left (`PassPlan.Treats`). What comes of a shader is
told by the answers alone. If no pass has changed the module there is nothing to write. Otherwise it
is made legal, written, validated and cleared of dead code, in this order, and whatever fails on the
way makes the run fail (`PassPlan.passes_in_order`).
-/

set_option autoImplicit false

namespace ShaderGuard

open Bytecode (ShaderId hasMagic)

/-! ### The order -/

/-- All that may be run on a module, in order. -/
def PassStep.order : List PassStep :=
  [.pass .bindlessDescriptor, .pass .bufferBounds, .pass .texelBufferBounds,
    .pass .bufferDeviceAddress, .pass .rayQuery, .pass .descriptorIndexing, .linkFunctions,
    .pass (.printf printfBinding)]

example : PassStep.order.Nodup := by decide

/-- Whether settings ask for a step. The called functions are always added. -/
def Settings.enables (settings : Settings) : PassStep → Bool
  | .pass .bindlessDescriptor | .pass .bufferBounds | .pass .texelBufferBounds =>
    settings.checks.bindlessDescriptor
  | .pass .bufferDeviceAddress => settings.checks.bufferDeviceAddress
  | .pass .rayQuery => settings.checks.rayQuery
  | .pass .descriptorIndexing => settings.checks.postProcessDescriptorIndex
  | .pass (.printf _) => settings.printfEnabled
  | .linkFunctions => true

namespace PassPlan

/-- What is run is what the settings ask for, in order. -/
theorem steps_eq (plan : PassPlan) :
    plan.steps = PassStep.order.filter plan.settings.enables := by
  -- Five switches decide.
  obtain ⟨⟨_, _, _, _, ⟨arrays, addresses, queries, indexing⟩, printing, _⟩, _, _⟩ := plan
  cases arrays <;> cases addresses <;> cases queries <;> cases indexing <;> cases printing <;> rfl

/-! ### What is done with a loaded module -/

/-- How a loaded module is treated: `work` is what runs on it, `last` what this leaves of it, and
`after` what is called then. -/
structure Treats {Module : Type} (plan : PassPlan) (module : Module)
    (work after : List (ToolCall Module)) (last : Module) (outcome : Except Fault PassOutcome) :
    Prop where
  /-- Everything runs on what the one before it has left. -/
  leads : Leads module work last
  /-- What the settings ask for runs, each once and in order. -/
  inOrder : work.map ToolCall.step? = (PassStep.order.filter plan.settings.enables).map some
  /-- The module counts as unmodified if no pass says that it has changed it. -/
  unmodified_iff : outcome = .ok .unmodified ↔ ∀ call ∈ work, call.changes = false
  /-- Nothing more is called for an unmodified module. -/
  idle : outcome = .ok .unmodified → after = []
  /-- A changed module is made legal and written, and what is written is seen through. -/
  changed : (∃ call ∈ work, call.changes = true) → ∃ legal written calls result,
    after = .postProcess last legal :: .serialize legal written :: calls ∧
      Finished Module plan written calls result ∧ outcome = result.map .instrumented
  /-- Words come of it only if the validator, where it is asked, has accepted what was written. They
  are what is left of this when dead code is dropped, or all of it where printing is all there is. -/
  instrumented : ∀ words, outcome = .ok (.instrumented words) → ∃ legal written,
    after = .postProcess last legal :: .serialize legal written ::
        (plan.validation Module written ++ plan.clearing Module written words) ∧
      (plan.settings.printfOnly = true → words = written)
  /-- Nothing comes of it if and only if a call fails. -/
  error_iff : (∃ fault, outcome = .error fault) ↔ ∃ call ∈ after, call.fails = true

variable {Module : Type} {plan : PassPlan} {module last legal : Module}
  {work calls : List (ToolCall Module)} {changed : Bool} {written : Code}
  {result : Except Fault Code}

theorem Treats.of_unchanged (hworks : Works plan.steps module work false last) :
    plan.Treats module work [] last (.ok .unmodified) where
  leads := hworks.leads
  inOrder := by rw [hworks.inOrder, steps_eq]
  unmodified_iff := by simpa using hworks.tells
  idle _ := rfl
  changed h := by
    have hchanges := List.any_eq_true.mpr h
    rw [hworks.tells] at hchanges
    exact absurd hchanges Bool.false_ne_true
  instrumented _ h := nomatch h
  error_iff := by simp

theorem Treats.of_changed (hworks : Works plan.steps module work true last)
    (hfinished : Finished Module plan written calls result) :
    plan.Treats module work (.postProcess last legal :: .serialize legal written :: calls) last
      (result.map .instrumented) where
  leads := hworks.leads
  inOrder := by rw [hworks.inOrder, steps_eq]
  unmodified_iff := by
    have hchanges := List.any_eq_true.mp hworks.tells
    refine iff_of_false (fun h ↦ ?_) fun hnone ↦ ?_
    · cases result <;> cases h
    · obtain ⟨call, hcall, hchange⟩ := hchanges
      rw [hnone call hcall] at hchange
      exact Bool.false_ne_true hchange
  idle h := by cases result <;> cases h
  changed _ := ⟨legal, written, calls, result, rfl, hfinished, rfl⟩
  instrumented words h := by
    have hok : result = .ok words := by
      cases result with
      | error fault => cases h
      | ok made =>
        cases h
        rfl
    obtain ⟨rfl, hprinted⟩ := hfinished.calls_of_ok hok
    exact ⟨legal, written, rfl, hprinted⟩
  error_iff := by
    constructor
    · rintro ⟨fault, h⟩
      have herror : result = .error fault := by
        cases result with
        | error cause =>
          cases h
          rfl
        | ok made => cases h
      obtain ⟨call, hcall, hfails⟩ := hfinished.exists_fails herror
      exact ⟨call, List.mem_cons_of_mem _ (List.mem_cons_of_mem _ hcall), hfails⟩
    · rintro ⟨call, hcall, hfails⟩
      rcases List.mem_cons.mp hcall with rfl | hcall
      · cases hfails
      rcases List.mem_cons.mp hcall with rfl | hcall
      · cases hfails
      obtain ⟨fault, rfl⟩ := hfinished.exists_fault_of_fails hcall hfails
      exact ⟨fault, rfl⟩

namespace Treats

variable {after : List (ToolCall Module)} {outcome : Except Fault PassOutcome}

/-- A loaded module is a shader's. -/
theorem ne_notShader (h : plan.Treats module work after last outcome) :
    outcome ≠ .ok .notShader := by
  intro hnot
  by_cases hchanges : ∃ call ∈ work, call.changes = true
  · obtain ⟨legal, written, calls, result, -, -, hresult⟩ := h.changed hchanges
    rw [hnot] at hresult
    cases result <;> cases hresult
  · have hunmodified := h.unmodified_iff.mpr fun call hcall ↦
      Bool.eq_false_iff.mpr fun hchange ↦ hchanges ⟨call, hcall, hchange⟩
    rw [hnot] at hunmodified
    cases hunmodified

/-- No step fails. -/
theorem exists_fails_iff (h : plan.Treats module work after last outcome) :
    (∃ call ∈ work ++ after, call.fails = true) ↔ ∃ call ∈ after, call.fails = true := by
  constructor
  · rintro ⟨call, hcall, hfails⟩
    rcases List.mem_append.mp hcall with hwork | hafter
    · rw [h.leads.fails_eq_false call hwork] at hfails
      exact absurd hfails Bool.false_ne_true
    · exact ⟨call, hafter, hfails⟩
  · rintro ⟨call, hcall, hfails⟩
    exact ⟨call, List.mem_append_right _ hcall, hfails⟩

end Treats

variable {P : Platform}

/-- Every loaded module is treated so. -/
theorem exists_treats (plan : PassPlan) (bench : Workbench P.observed) (id : ShaderId)
    (module : P.tools.Module) : ∃ work after last,
      bench.Uses (work ++ after) (plan.instrument bench id module).2 ∧
        plan.Treats module work after last (plan.instrument bench id module).1 := by
  obtain ⟨work, changed, last, hworks, ⟨rfl, hused, hresult⟩ |
    ⟨rfl, legal, written, calls, result, hfinished, hresult, hused⟩⟩ :=
      exists_instrumented plan bench id module
  · rw [← List.append_nil work] at hused
    rw [hresult]
    exact ⟨work, [], last, hused, .of_unchanged hworks⟩
  · rw [hresult]
    exact ⟨work, _, last, hused, .of_changed hworks hfinished⟩

/-- The calls of a run of the passes, on every platform. Code that is no shader's costs none, and
nothing else is taken for such code. Other code is loaded, as the kind of layout that it is used
with; if this fails there are no more calls, and otherwise what is loaded is treated as the settings
say. The run fails if and only if a call does. -/
theorem passes_in_order (plan : PassPlan) (bench : Workbench P.observed) (code : Code)
    (id : ShaderId) (bindless : Bool) :
    let outcome := (plan.run bench code id bindless).1
    ∃ calls, bench.Uses calls (plan.run bench code id bindless).2 ∧
      (hasMagic code = false → calls = []) ∧
      (outcome = .ok .notShader ↔ hasMagic code = false) ∧
      (hasMagic code = true → ∃ answer rest,
        calls = .load code (plan.moduleSettings id bindless) answer :: rest ∧
          (∀ fault, answer = .error fault → rest = [] ∧ outcome = .error fault) ∧
          ∀ module, answer = .ok module → ∃ work after last,
            rest = work ++ after ∧ plan.Treats module work after last outcome) ∧
      ((∃ fault, outcome = .error fault) ↔ ∃ call ∈ calls, call.fails = true) := by
  intro outcome
  by_cases hmagic : hasMagic code = true
  · have hshader : hasMagic code ≠ false := by rw [hmagic]; exact Bool.noConfusion
    obtain ⟨answer, ready, hload, herror, hok⟩ := exists_loaded plan bench id bindless hmagic
    cases answer with
    | error fault =>
      have hrun := herror fault rfl
      have houtcome : outcome = .error fault := congrArg Prod.fst hrun
      rw [hrun, houtcome]
      refine ⟨_, hload, fun h ↦ absurd h hshader, ?_, fun _ ↦ ⟨_, [], rfl, ?_, ?_⟩, ?_⟩
      · exact iff_of_false (fun h ↦ nomatch h) hshader
      · intro cause hcause
        cases hcause
        exact ⟨rfl, rfl⟩
      · exact fun module h ↦ nomatch h
      · exact iff_of_true ⟨fault, rfl⟩ ⟨_, List.mem_cons_self, rfl⟩
    | ok module =>
      obtain ⟨work, after, last, hused, htreats⟩ := exists_treats plan ready id module
      have hrun := hok module rfl
      have houtcome : outcome = (plan.instrument ready id module).1 := congrArg Prod.fst hrun
      rw [← houtcome] at htreats
      rw [hrun]
      refine ⟨_, Workbench.chains_uses.trans hload hused, fun h ↦ absurd h hshader, ?_,
        fun _ ↦ ⟨_, _, rfl, ?_, ?_⟩, ?_⟩
      · exact iff_of_false htreats.ne_notShader hshader
      · exact fun fault h ↦ nomatch h
      · intro loaded hloaded
        cases hloaded
        exact ⟨work, after, last, rfl, htreats⟩
      · rw [htreats.error_iff, ← htreats.exists_fails_iff]
        simp [ToolCall.fails]
  · have hnot : hasMagic code = false := Bool.eq_false_iff.mpr hmagic
    have hrun := run_of_not_hasMagic plan bench code id bindless hnot
    have houtcome : outcome = .ok .notShader := congrArg Prod.fst hrun
    rw [hrun, houtcome]
    refine ⟨[], rfl, fun _ ↦ rfl, iff_of_true rfl hnot, fun h ↦ absurd h hmagic, ?_⟩
    simp

end PassPlan

end ShaderGuard
