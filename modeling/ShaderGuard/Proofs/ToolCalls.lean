import ShaderGuard.Proofs.Audit
import ShaderGuard.Proofs.Frame

/-!
# Watched toolchains

A toolchain may be watched as a device may be audited: a watched one answers as the toolchain does
and writes every call down, with the answer (`Toolchain.watched`). It is itself a toolchain, so what
is proved of every platform holds of one whose tools are watched. A platform whose tools are watched
and whose device is audited is observed (`Platform.observed`).

The calls of one run of the passes are known from how it ends (`PassPlan.Ran`): a shader is loaded,
the loaded module is worked on by calls each of which takes up what the one before it has left
(`Leads`), and what comes of it is written, validated and cleared of dead code, in this order, until
one of the calls fails. `Instrumentor.exists_codeWork` tells what an attempt to instrument code
calls and leaves behind, and `Session.tools_step` that other hooks call no tool.
-/

set_option autoImplicit false

namespace ShaderGuard

open Bytecode (ShaderId hasMagic)

/-! ### Calls -/

/-- A call to a toolchain, with its answer. -/
inductive ToolCall (Module : Type) where
  | load (code : Code) (settings : ModuleSettings) (answer : Except Fault Module)
  | run (pass : Pass) (module : Module) (changed : Bool) (after : Module)
  | linkFunctions (module after : Module)
  | postProcess (module after : Module)
  | serialize (module : Module) (written : Code)
  | validate (code : Code) (target : TargetEnv) (options : ValidatorOptions)
      (answer : Except String Unit)
  | eliminateDeadCode (code : Code) (target : TargetEnv) (answer : Except String Code)

/-- Whether a call has failed. -/
def ToolCall.fails {Module : Type} : ToolCall Module → Bool
  | .load _ _ (.error _) | .validate _ _ _ (.error _) | .eliminateDeadCode _ _ (.error _) => true
  | _ => false

/-- What is run on a loaded module: a pass, or the addition of the functions that the passes so far
have called. -/
inductive PassStep where
  | pass (pass : Pass)
  | linkFunctions
  deriving DecidableEq

/-- The step that a call is, if it is one. -/
def ToolCall.step? {Module : Type} : ToolCall Module → Option PassStep
  | .run pass _ _ _ => some (.pass pass)
  | .linkFunctions _ _ => some .linkFunctions
  | _ => none

/-- Whether a call is a pass that says that it has changed the module. -/
def ToolCall.changes {Module : Type} : ToolCall Module → Bool
  | .run _ _ changed _ => changed
  | _ => false

/-- A toolchain that writes every call down, the latest first. -/
abbrev Toolchain.watched {σ : Type} (tools : Toolchain σ) :
    Toolchain (σ × List (ToolCall tools.Module)) where
  Module := tools.Module
  load code settings s :=
    let loaded := tools.load code settings s.1
    (loaded.1, loaded.2, .load code settings loaded.1 :: s.2)
  run pass module s :=
    let ran := tools.run pass module s.1
    (ran.1, ran.2.1, ran.2.2, .run pass module ran.1 ran.2.1 :: s.2)
  linkFunctions module s :=
    let linked := tools.linkFunctions module s.1
    (linked.1, linked.2, .linkFunctions module linked.1 :: s.2)
  postProcess module s :=
    let legal := tools.postProcess module s.1
    (legal.1, legal.2, .postProcess module legal.1 :: s.2)
  serialize module s :=
    let written := tools.serialize module s.1
    (written.1, written.2, .serialize module written.1 :: s.2)
  validate code target options s :=
    let verdict := tools.validate code target options s.1
    (verdict.1, verdict.2, .validate code target options verdict.1 :: s.2)
  eliminateDeadCode code target s :=
    let cleared := tools.eliminateDeadCode code target s.1
    (cleared.1, cleared.2.1, cleared.2.2, .eliminateDeadCode code target cleared.1 :: s.2)

/-- A platform whose tools are watched. -/
abbrev Platform.watched (P : Platform) : Platform :=
  { P with
    ToolState := P.ToolState × List (ToolCall P.tools.Module)
    tools := P.tools.watched }

/-- A platform whose tools are watched and whose device is audited. -/
abbrev Platform.observed (P : Platform) : Platform := P.watched.audited

/-- That calls lead from one module to another: each of them works on what the one before it has
left. -/
inductive Leads {Module : Type} : Module → List (ToolCall Module) → Module → Prop where
  | refl (module : Module) : Leads module [] module
  | run (pass : Pass) (module : Module) (changed : Bool) {after last : Module}
      {calls : List (ToolCall Module)} (hrest : Leads after calls last) :
      Leads module (.run pass module changed after :: calls) last
  | linkFunctions (module : Module) {after last : Module} {calls : List (ToolCall Module)}
      (hrest : Leads after calls last) : Leads module (.linkFunctions module after :: calls) last
  | postProcess (module : Module) {after last : Module} {calls : List (ToolCall Module)}
      (hrest : Leads after calls last) : Leads module (.postProcess module after :: calls) last

namespace Leads

variable {Module : Type} {first middle last : Module} {calls more : List (ToolCall Module)}

theorem trans (h : Leads first calls middle) (hmore : Leads middle more last) :
    Leads first (calls ++ more) last := by
  induction h with
  | refl => exact hmore
  | run pass module changed _ ih => exact .run pass module changed (ih hmore)
  | linkFunctions module _ ih => exact .linkFunctions module (ih hmore)
  | postProcess module _ ih => exact .postProcess module (ih hmore)

/-- No call that leads from module to module loads code or fails. -/
theorem not_load (h : Leads first calls last) (code : Code) (settings : ModuleSettings)
    (answer : Except Fault Module) : .load code settings answer ∉ calls := by
  induction h with
  | refl => exact List.not_mem_nil
  | run _ _ _ _ ih | linkFunctions _ _ ih | postProcess _ _ ih => simpa using ih

theorem fails_eq_false (h : Leads first calls last) : ∀ call ∈ calls, call.fails = false := by
  induction h with
  | refl => exact fun call hcall ↦ absurd hcall List.not_mem_nil
  | run _ _ _ _ ih | linkFunctions _ _ ih | postProcess _ _ ih =>
    intro call hcall
    rcases List.mem_cons.mp hcall with rfl | hcall
    · rfl
    · exact ih call hcall

end Leads

/-- That calls run some steps on a module, each on what the one before it has left, and whether any
of them has changed it. -/
structure Works {Module : Type} (steps : List PassStep) (module : Module)
    (calls : List (ToolCall Module)) (changed : Bool) (last : Module) : Prop where
  leads : Leads module calls last
  inOrder : calls.map ToolCall.step? = steps.map some
  tells : calls.any ToolCall.changes = changed

namespace Works

variable {Module : Type}

theorem nil (module : Module) : Works [] module [] false module := ⟨.refl module, rfl, rfl⟩

theorem pass (pass : Pass) (module : Module) (changed : Bool) (after : Module) :
    Works [.pass pass] module [.run pass module changed after] changed after :=
  ⟨.run pass module changed (.refl after), rfl, Bool.or_false changed⟩

theorem linkFunctions (module after : Module) :
    Works [.linkFunctions] module [.linkFunctions module after] false after :=
  ⟨.linkFunctions module (.refl after), rfl, rfl⟩

theorem append {steps further : List PassStep} {first middle last : Module}
    {calls more : List (ToolCall Module)} {changed changes : Bool}
    (h : Works steps first calls changed middle) (hmore : Works further middle more changes last) :
    Works (steps ++ further) first (calls ++ more) (changed || changes) last where
  leads := h.leads.trans hmore.leads
  inOrder := by rw [List.map_append, List.map_append, h.inOrder, hmore.inOrder]
  tells := by rw [List.any_append, h.tells, hmore.tells]

end Works

/-! ### Workbenches -/

variable {P : Platform}

namespace Workbench

/-- The calls to the tools, the latest first. -/
def toolCalls (bench : Workbench P.observed) : List (ToolCall P.tools.Module) := bench.tools.2

/-- That the tools are called so between two workbenches, with the first call first. -/
def Uses (bench : Workbench P.observed) (calls : List (ToolCall P.tools.Module))
    (after : Workbench P.observed) : Prop :=
  after.toolCalls = calls.reverse ++ bench.toolCalls

theorem chains_uses : Chains (Uses (P := P)) where
  refl _ := rfl
  trans {bench after last first second} hfirst hsecond := by
    unfold Uses at *
    rw [hsecond, hfirst, List.reverse_append, List.append_assoc]

theorem uses_of_tools_eq {bench after : Workbench P.observed} (h : after.tools = bench.tools) :
    bench.Uses [] after := congrArg Prod.snd h

end Workbench

/-- Passes that are run one after the other are written down in this order. -/
theorem exists_works_runPasses {σ : Type} (tools : Toolchain σ) (passes : List Pass)
    (module : tools.Module) (state : σ × List (ToolCall tools.Module)) :
    ∃ calls, Works (passes.map .pass) module calls (runPasses tools.watched passes module state).1
        (runPasses tools.watched passes module state).2.1 ∧
      (runPasses tools.watched passes module state).2.2.2 = calls.reverse ++ state.2 := by
  induction passes generalizing module state with
  | nil => exact ⟨[], .nil module, rfl⟩
  | cons pass rest ih =>
    let ran := tools.watched.run pass module state
    obtain ⟨calls, hworks, hcalls⟩ := ih ran.2.1 ran.2.2
    refine ⟨.run pass module ran.1 ran.2.1 :: calls,
      (Works.pass pass module ran.1 ran.2.1).append hworks, ?_⟩
    have hhead : ran.2.2.2 = .run pass module ran.1 ran.2.1 :: state.2 := rfl
    show (runPasses tools.watched rest ran.2.1 ran.2.2).2.2.2 = _
    rw [hcalls, hhead, List.reverse_cons, List.append_assoc, List.singleton_append]

/-! ### Runs of the passes -/

namespace PassPlan

/-- What is run on every module that is loaded, in order. -/
def steps (plan : PassPlan) : List PassStep :=
  plan.checkPasses.map .pass ++ [.linkFunctions] ++ plan.printPasses.map .pass

/-- The question to the validator about written code, with its consent, if it is asked. -/
def validation (Module : Type) (plan : PassPlan) (written : Code) : List (ToolCall Module) :=
  if plan.settings.validateInstrumented then
    [.validate written plan.capabilities.targetEnv plan.validatorOptions (.ok ())]
  else []

/-- The request to clear written code of what has no effect, with the words that come of it, if it is
made. -/
def clearing (Module : Type) (plan : PassPlan) (written words : Code) : List (ToolCall Module) :=
  if plan.settings.printfOnly then []
  else [.eliminateDeadCode written plan.capabilities.targetEnv (.ok words)]

/-- The calls that clear written code of what has no effect, by what comes of it. Where printing is
all there is, the code stays as it is. -/
inductive Cleared (Module : Type) (plan : PassPlan) (written : Code) :
    List (ToolCall Module) → Except Fault Code → Prop where
  | printed (hprinted : plan.settings.printfOnly = true) :
      Cleared Module plan written [] (.ok written)
  | optimized (hnot : plan.settings.printfOnly = false) (words : Code) :
      Cleared Module plan written
        [.eliminateDeadCode written plan.capabilities.targetEnv (.ok words)] (.ok words)
  | failed (hnot : plan.settings.printfOnly = false) (reason : String) (fault : Fault) :
      Cleared Module plan written
        [.eliminateDeadCode written plan.capabilities.targetEnv (.error reason)] (.error fault)

/-- The calls after code was written, by what comes of it. -/
inductive Finished (Module : Type) (plan : PassPlan) (written : Code) :
    List (ToolCall Module) → Except Fault Code → Prop where
  /-- The validator refuses the code. -/
  | invalid (diagnostic : String) (fault : Fault) :
      Finished Module plan written
        [.validate written plan.capabilities.targetEnv plan.validatorOptions (.error diagnostic)]
        (.error fault)
  | valid {calls : List (ToolCall Module)} {result : Except Fault Code}
      (hcleared : Cleared Module plan written calls result) :
      Finished Module plan written (plan.validation Module written ++ calls) result

/-- The calls of a run of the passes, by how it ends. -/
inductive Ran (Module : Type) (plan : PassPlan) (code : Code) (id : ShaderId) (bindless : Bool) :
    List (ToolCall Module) → Except Fault PassOutcome → Prop where
  | notShader (hmagic : hasMagic code = false) :
      Ran Module plan code id bindless [] (.ok .notShader)
  | unloadable (fault : Fault) :
      Ran Module plan code id bindless [.load code (plan.moduleSettings id bindless) (.error fault)]
        (.error fault)
  | unmodified {loaded last : Module} {work : List (ToolCall Module)}
      (hleads : Leads loaded work last) :
      Ran Module plan code id bindless
        (.load code (plan.moduleSettings id bindless) (.ok loaded) :: work) (.ok .unmodified)
  | finished {loaded last : Module} {work calls : List (ToolCall Module)} {written : Code}
      {result : Except Fault Code} (hleads : Leads loaded work last)
      (hfinished : Finished Module plan written calls result) :
      Ran Module plan code id bindless
        (.load code (plan.moduleSettings id bindless) (.ok loaded) ::
          (work ++ .serialize last written :: calls))
        (result.map .instrumented)

/-- Only what is no shader is taken for none. -/
theorem Ran.not_hasMagic {Module : Type} {plan : PassPlan} {code : Code} {id : ShaderId}
    {bindless : Bool} {calls : List (ToolCall Module)} {outcome : Except Fault PassOutcome}
    (h : Ran Module plan code id bindless calls outcome) (hend : outcome = .ok .notShader) :
    hasMagic code = false := by
  cases h with
  | notShader hmagic => exact hmagic
  | unloadable fault => cases hend
  | unmodified hleads => cases hend
  | @finished _ _ _ _ _ result hleads hfinished => cases result <;> cases hend

/-- Nothing is loaded after code was written. -/
theorem Finished.not_load {Module : Type} {plan : PassPlan} {written : Code}
    {calls : List (ToolCall Module)} {result : Except Fault Code}
    (h : Finished Module plan written calls result) (code : Code) (settings : ModuleSettings)
    (answer : Except Fault Module) : .load code settings answer ∉ calls := by
  cases h with
  | invalid diagnostic fault => simp
  | valid hcleared =>
    unfold validation
    intro hcall
    rcases List.mem_append.mp hcall with hcall | hcall
    · split at hcall
      · simp at hcall
      · simp at hcall
    · cases hcleared <;> simp at hcall

/-- What a run of the passes loads, and what it tells the toolchain about it. -/
theorem Ran.eq_of_load {Module : Type} {plan : PassPlan} {code : Code} {id : ShaderId}
    {bindless : Bool} {calls : List (ToolCall Module)} {outcome : Except Fault PassOutcome}
    (h : Ran Module plan code id bindless calls outcome) {loaded : Code} {settings : ModuleSettings}
    {answer : Except Fault Module} (hcall : .load loaded settings answer ∈ calls) :
    loaded = code ∧ settings = plan.moduleSettings id bindless := by
  cases h with
  | notShader hmagic => cases hcall
  | unloadable fault =>
    cases List.mem_singleton.mp hcall
    exact ⟨rfl, rfl⟩
  | unmodified hleads =>
    rcases List.mem_cons.mp hcall with hcall | hcall
    · cases hcall
      exact ⟨rfl, rfl⟩
    · exact absurd hcall (hleads.not_load _ _ _)
  | finished hleads hfinished =>
    rcases List.mem_cons.mp hcall with hcall | hcall
    · cases hcall
      exact ⟨rfl, rfl⟩
    rcases List.mem_append.mp hcall with hcall | hcall
    · exact absurd hcall (hleads.not_load _ _ _)
    rcases List.mem_cons.mp hcall with hcall | hcall
    · cases hcall
    · exact absurd hcall (hfinished.not_load _ _ _)

/-- If a call after code was written fails, nothing comes of the code. -/
theorem Finished.exists_fault_of_fails {Module : Type} {plan : PassPlan} {written : Code}
    {calls : List (ToolCall Module)} {result : Except Fault Code}
    (h : Finished Module plan written calls result) {call : ToolCall Module} (hcall : call ∈ calls)
    (hfails : call.fails = true) : ∃ fault, result = .error fault := by
  cases h with
  | invalid diagnostic fault => exact ⟨fault, rfl⟩
  | valid hcleared =>
    have hvalid : call ∉ plan.validation Module written := by
      unfold validation
      intro hasked
      split at hasked
      · obtain rfl := List.mem_singleton.mp hasked
        cases hfails
      · cases hasked
    have hlast := (List.mem_append.mp hcall).resolve_left hvalid
    cases hcleared with
    | printed hprinted => cases hlast
    | optimized hnot words =>
      obtain rfl := List.mem_singleton.mp hlast
      cases hfails
    | failed hnot reason fault => exact ⟨fault, rfl⟩

/-- If nothing comes of the code, a call after it was written fails. -/
theorem Finished.exists_fails {Module : Type} {plan : PassPlan} {written : Code}
    {calls : List (ToolCall Module)} {result : Except Fault Code}
    (h : Finished Module plan written calls result) {fault : Fault} (herror : result = .error fault) :
    ∃ call ∈ calls, call.fails = true := by
  cases h with
  | invalid diagnostic fault => exact ⟨_, List.mem_cons_self, rfl⟩
  | valid hcleared =>
    cases hcleared with
    | printed hprinted => cases herror
    | optimized hnot words => cases herror
    | failed hnot reason fault => exact ⟨_, List.mem_append_right _ List.mem_cons_self, rfl⟩

/-- The calls after code was written, if words come of it. -/
theorem Finished.calls_of_ok {Module : Type} {plan : PassPlan} {written : Code}
    {calls : List (ToolCall Module)} {result : Except Fault Code}
    (h : Finished Module plan written calls result) {words : Code} (hok : result = .ok words) :
    calls = plan.validation Module written ++ plan.clearing Module written words ∧
      (plan.settings.printfOnly = true → words = written) := by
  cases h with
  | invalid diagnostic fault => cases hok
  | valid hcleared =>
    unfold clearing
    cases hcleared with
    | printed hprinted =>
      rw [if_pos hprinted]
      exact ⟨rfl, fun _ ↦ (Except.ok.inj hok).symm⟩
    | optimized hnot cleared =>
      obtain rfl := Except.ok.inj hok
      rw [hnot]
      exact ⟨rfl, fun hprinted ↦ absurd hprinted Bool.false_ne_true⟩
    | failed hnot reason fault => cases hok

/-- If a call of a run of the passes fails, the run does. -/
theorem Ran.exists_fault_of_fails {Module : Type} {plan : PassPlan} {code : Code} {id : ShaderId}
    {bindless : Bool} {calls : List (ToolCall Module)} {outcome : Except Fault PassOutcome}
    (h : Ran Module plan code id bindless calls outcome) {call : ToolCall Module}
    (hcall : call ∈ calls) (hfails : call.fails = true) : ∃ fault, outcome = .error fault := by
  cases h with
  | notShader hmagic => cases hcall
  | unloadable fault => exact ⟨fault, rfl⟩
  | unmodified hleads =>
    rcases List.mem_cons.mp hcall with rfl | hcall
    · cases hfails
    · rw [hleads.fails_eq_false call hcall] at hfails
      cases hfails
  | finished hleads hfinished =>
    rcases List.mem_cons.mp hcall with rfl | hcall
    · cases hfails
    rcases List.mem_append.mp hcall with hcall | hcall
    · rw [hleads.fails_eq_false call hcall] at hfails
      cases hfails
    rcases List.mem_cons.mp hcall with rfl | hcall
    · cases hfails
    · obtain ⟨fault, rfl⟩ := hfinished.exists_fault_of_fails hcall hfails
      exact ⟨fault, rfl⟩

theorem tools_dump (plan : PassPlan) (bench : Workbench P) (id : ShaderId) (stage : DumpStage)
    (code : Code) : (plan.dump bench id stage code).tools = bench.tools := by
  unfold dump
  split
  · simp only []
    split <;> rfl
  · rfl

theorem exists_cleared (plan : PassPlan) (bench : Workbench P.observed) (id : ShaderId)
    (code : Code) :
    ∃ calls, Cleared P.tools.Module plan code calls (plan.optimize bench id code).1 ∧
      bench.Uses calls (plan.optimize bench id code).2 := by
  unfold optimize
  by_cases hprinted : plan.settings.printfOnly = true
  · rw [if_pos hprinted]
    exact ⟨[], .printed hprinted, rfl⟩
  · have hnot : plan.settings.printfOnly = false := Bool.eq_false_iff.mpr hprinted
    rw [if_neg hprinted]
    simp only []
    split
    · next words hwords =>
      refine ⟨[.eliminateDeadCode code plan.capabilities.targetEnv (.ok words)],
        .optimized hnot words, ?_⟩
      rw [← hwords]
      exact congrArg Prod.snd (tools_dump (P := P.observed) plan _ id .optimized words)
    · next reason hreason =>
      refine ⟨[.eliminateDeadCode code plan.capabilities.targetEnv (.error reason)],
        .failed hnot reason _, ?_⟩
      rw [← hreason]
      rfl

/-- What the validator answers, if it is asked. -/
theorem exists_validated (plan : PassPlan) (bench : Workbench P.observed) (id : ShaderId)
    (code : Code) :
    ((plan.validate bench id code).1 = .ok () ∧
        bench.Uses (plan.validation P.tools.Module code) (plan.validate bench id code).2) ∨
      ∃ diagnostic fault, (plan.validate bench id code).1 = .error fault ∧
        bench.Uses
          [.validate code plan.capabilities.targetEnv plan.validatorOptions (.error diagnostic)]
          (plan.validate bench id code).2 := by
  unfold validate validation
  by_cases hvalidates : plan.settings.validateInstrumented = true
  · simp only [if_pos hvalidates]
    cases hverdict : (P.observed.tools.validate code plan.capabilities.targetEnv
        plan.validatorOptions bench.tools).1 with
    | ok =>
      refine Or.inl ⟨rfl, ?_⟩
      rw [← hverdict]
      rfl
    | error diagnostic =>
      refine Or.inr ⟨diagnostic, _, rfl, ?_⟩
      rw [← hverdict]
      rfl
  · simp only [if_neg hvalidates]
    exact Or.inl ⟨trivial, rfl⟩

theorem exists_finished (plan : PassPlan) (bench : Workbench P.observed) (id : ShaderId)
    (module : P.tools.Module) :
    ∃ legal written calls result, Finished P.tools.Module plan written calls result ∧
      (plan.finish bench id module).1 = result.map .instrumented ∧
      bench.Uses (.postProcess module legal :: .serialize legal written :: calls)
        (plan.finish bench id module).2 := by
  let legal := P.observed.tools.postProcess module bench.tools
  let written := P.observed.tools.serialize legal.1 legal.2
  let dumped := plan.dump { bench with tools := written.2 } id .after written.1
  have hwritten : bench.Uses [.postProcess module legal.1, .serialize legal.1 written.1] dumped :=
    congrArg Prod.snd (tools_dump (P := P.observed) plan _ id .after written.1)
  rcases exists_validated plan dumped id written.1 with
    ⟨hvalid, hasked⟩ | ⟨diagnostic, fault, hinvalid, hasked⟩
  · let optimized := plan.optimize (plan.validate dumped id written.1).2 id written.1
    have hfinish : plan.finish bench id module =
        (optimized.1.map .instrumented, optimized.2) := by
      unfold finish
      simp only []
      rw [hvalid]
    obtain ⟨calls, hcleared, hused⟩ :=
      exists_cleared plan (plan.validate dumped id written.1).2 id written.1
    rw [hfinish]
    exact ⟨legal.1, written.1, _, _, .valid hcleared, rfl,
      Workbench.chains_uses.trans hwritten (Workbench.chains_uses.trans hasked hused)⟩
  · have hfinish : plan.finish bench id module =
        (.error fault, (plan.validate dumped id written.1).2) := by
      unfold finish
      simp only []
      rw [hinvalid]
    rw [hfinish]
    exact ⟨legal.1, written.1, _, .error fault, .invalid diagnostic fault, rfl,
      Workbench.chains_uses.trans hwritten hasked⟩

/-- A loaded module is worked on in all steps, and finished if any of them has changed it. -/
theorem exists_instrumented (plan : PassPlan) (bench : Workbench P.observed) (id : ShaderId)
    (module : P.tools.Module) :
    ∃ work changed last, Works plan.steps module work changed last ∧
      (changed = false ∧ bench.Uses work (plan.instrument bench id module).2 ∧
          (plan.instrument bench id module).1 = .ok .unmodified ∨
        changed = true ∧ ∃ legal written calls result,
          Finished P.tools.Module plan written calls result ∧
          (plan.instrument bench id module).1 = result.map .instrumented ∧
          bench.Uses (work ++ .postProcess last legal :: .serialize legal written :: calls)
            (plan.instrument bench id module).2) := by
  let checked := runPasses P.observed.tools plan.checkPasses module bench.tools
  let linked := P.observed.tools.linkFunctions checked.2.1 checked.2.2
  let printed := runPasses P.observed.tools plan.printPasses linked.1 linked.2
  let worked : Workbench P.observed := { bench with tools := printed.2.2 }
  obtain ⟨checks, hchecks, hchecked⟩ :=
    exists_works_runPasses P.tools plan.checkPasses module bench.tools
  obtain ⟨prints, hprints, hprinted⟩ :=
    exists_works_runPasses P.tools plan.printPasses linked.1 linked.2
  have hworks := (hchecks.append (.linkFunctions checked.2.1 linked.1)).append hprints
  rw [Bool.or_false] at hworks
  have hused : bench.Uses (checks ++ [.linkFunctions checked.2.1 linked.1] ++ prints) worked := by
    have hlinked : linked.2.2 = .linkFunctions checked.2.1 linked.1 :: checked.2.2.2 := rfl
    show printed.2.2.2 = _ ++ bench.tools.2
    rw [List.append_assoc, List.reverse_append, List.append_assoc, List.singleton_append,
      List.reverse_cons, List.append_assoc, ← hchecked, List.singleton_append, ← hlinked]
    exact hprinted
  have hinstrument : plan.instrument bench id module =
      if checked.1 || printed.1 then plan.finish worked id printed.2.1
      else
        (.ok .unmodified, worked.record
          (.plain .trace "gpuav::PassPipeline" s!"Shader {id.toNat} left unmodified")) := rfl
  refine ⟨_, _, _, hworks, ?_⟩
  rw [hinstrument]
  by_cases hchanged : (checked.1 || printed.1) = true
  · obtain ⟨legal, written, calls, result, hfinished, hresult, hfinish⟩ :=
      exists_finished plan worked id printed.2.1
    rw [if_pos hchanged]
    exact Or.inr ⟨hchanged, legal, written, calls, result, hfinished, hresult,
      Workbench.chains_uses.trans hused hfinish⟩
  · rw [if_neg hchanged]
    exact Or.inl ⟨Bool.eq_false_iff.mpr hchanged, hused, rfl⟩

theorem run_of_load_error (plan : PassPlan) (bench : Workbench P) {code : Code} (id : ShaderId)
    (bindless : Bool) (hmagic : hasMagic code = true) {fault : Fault}
    (h : (P.tools.load code (plan.moduleSettings id bindless)
      (plan.dump bench id .before code).tools).1 = .error fault) :
    plan.run bench code id bindless = (.error fault, { plan.dump bench id .before code with
      tools := (P.tools.load code (plan.moduleSettings id bindless)
        (plan.dump bench id .before code).tools).2 }) := by
  simp only [run, if_pos hmagic, h]

theorem run_of_load_ok (plan : PassPlan) (bench : Workbench P) {code : Code} (id : ShaderId)
    (bindless : Bool) (hmagic : hasMagic code = true) {module : P.tools.Module}
    (h : (P.tools.load code (plan.moduleSettings id bindless)
      (plan.dump bench id .before code).tools).1 = .ok module) :
    plan.run bench code id bindless = plan.instrument { plan.dump bench id .before code with
      tools := (P.tools.load code (plan.moduleSettings id bindless)
        (plan.dump bench id .before code).tools).2 } id module := by
  simp only [run, if_pos hmagic, h]

/-- Code that looks like a shader's is loaded, and what is loaded is instrumented. -/
theorem exists_loaded (plan : PassPlan) (bench : Workbench P.observed) {code : Code}
    (id : ShaderId) (bindless : Bool) (hmagic : hasMagic code = true) :
    ∃ loaded ready, bench.Uses [.load code (plan.moduleSettings id bindless) loaded] ready ∧
      (∀ fault, loaded = .error fault →
        plan.run bench code id bindless = (.error fault, ready)) ∧
      ∀ module, loaded = .ok module →
        plan.run bench code id bindless = plan.instrument ready id module := by
  let dumped := plan.dump bench id .before code
  let loaded := P.observed.tools.load code (plan.moduleSettings id bindless) dumped.tools
  have hdumped : dumped.tools = bench.tools := tools_dump plan bench id .before code
  let ready : Workbench P.observed := { dumped with tools := loaded.2 }
  have hload : bench.Uses [.load code (plan.moduleSettings id bindless) loaded.1] ready :=
    congrArg (fun tools : P.observed.ToolState ↦ _ :: tools.2) hdumped
  exact ⟨loaded.1, ready, hload, fun _ h ↦ run_of_load_error plan bench id bindless hmagic h,
    fun _ h ↦ run_of_load_ok plan bench id bindless hmagic h⟩

/-- Every run of the passes can be told by its calls. -/
theorem exists_ran (plan : PassPlan) (bench : Workbench P.observed) (code : Code) (id : ShaderId)
    (bindless : Bool) :
    ∃ calls, Ran P.tools.Module plan code id bindless calls (plan.run bench code id bindless).1 ∧
      bench.Uses calls (plan.run bench code id bindless).2 := by
  by_cases hmagic : hasMagic code = true
  · obtain ⟨loaded, ready, hload, herror, hok⟩ := exists_loaded plan bench id bindless hmagic
    cases loaded with
    | error fault =>
      rw [herror fault rfl]
      exact ⟨_, .unloadable fault, hload⟩
    | ok module =>
      rw [hok module rfl]
      obtain ⟨work, changed, last, hworks, ⟨-, hused, hresult⟩ |
        ⟨-, legal, written, calls, result, hfinished, hresult, hused⟩⟩ :=
          exists_instrumented plan ready id module
      · have hran : Ran P.tools.Module plan code id bindless _ (.ok .unmodified) :=
          .unmodified hworks.leads
        rw [← hresult] at hran
        exact ⟨_, hran, Workbench.chains_uses.trans hload hused⟩
      · have hleads := hworks.leads.trans (.postProcess last (.refl legal))
        have hran : Ran P.tools.Module plan code id bindless _ (result.map .instrumented) :=
          .finished hleads hfinished
        rw [← hresult, List.append_assoc] at hran
        exact ⟨_, hran, Workbench.chains_uses.trans hload hused⟩
  · have hnot : hasMagic code = false := Bool.eq_false_iff.mpr hmagic
    rw [run_of_not_hasMagic plan bench code id bindless hnot]
    exact ⟨[], .notShader hnot, rfl⟩

end PassPlan

/-! ### Attempts -/

namespace Instrumentor

theorem get?_cache_of_cached? {s : Instrumentor P} {id : ShaderId} {words : Code}
    (h : s.cached? id = some words) : s.cache.get? id = some words := by
  unfold cached? at h
  split at h
  · exact h
  · cases h

/-- What an attempt to instrument a piece of code calls, gives and leaves behind. -/
inductive CodeWork (s : Instrumentor P.observed) (code : Code) (bindless : Bool) :
    List (ToolCall P.tools.Module) → Option InstrumentedCode → Instrumentor P.observed → Prop where
  /-- The device is not set up, nothing is rewritten, or the code is no shader's. -/
  | spared : CodeWork s code bindless [] none s
  /-- The words were kept for use again. -/
  | found {words : Code} {t : Instrumentor P.observed}
      (hfound : s.cache.get? (s.identify code).1 = some words) (hcache : t.cache = s.cache)
      (hsubsystem : t.subsystem = s.subsystem) :
      CodeWork s code bindless [] (some ⟨(s.identify code).1, words⟩) t
  /-- The passes make words of the code. -/
  | made {resources : DeviceResources} {calls : List (ToolCall P.tools.Module)} {words : Code}
      {t : Instrumentor P.observed} (hready : s.resources = some resources)
      (hactive : s.isInstrumenting = true)
      (hran : PassPlan.Ran P.tools.Module (s.passPlan resources) code (s.identify code).1 bindless
        calls (.ok (.instrumented words)))
      (hcache : t.cache = s.cache ∨ t.cache = s.cache.insert (s.identify code).1 words)
      (hsubsystem : t.subsystem = s.subsystem) :
      CodeWork s code bindless calls (some ⟨(s.identify code).1, words⟩) t
  /-- The passes leave the code as it is. -/
  | unmodified {resources : DeviceResources} {calls : List (ToolCall P.tools.Module)}
      {t : Instrumentor P.observed} (hready : s.resources = some resources)
      (hactive : s.isInstrumenting = true)
      (hran : PassPlan.Ran P.tools.Module (s.passPlan resources) code (s.identify code).1 bindless
        calls (.ok .unmodified))
      (hcache : t.cache = s.cache) (hsubsystem : t.subsystem = s.subsystem) :
      CodeWork s code bindless calls none t
  /-- The passes fail. -/
  | failed {resources : DeviceResources} {calls : List (ToolCall P.tools.Module)} {fault : Fault}
      {t : Instrumentor P.observed} (hready : s.resources = some resources)
      (hactive : s.isInstrumenting = true)
      (hran : PassPlan.Ran P.tools.Module (s.passPlan resources) code (s.identify code).1 bindless
        calls (.error fault))
      (hcache : t.cache = s.cache) (hoff : t.subsystem.active = false) :
      CodeWork s code bindless calls none t

/-- What an attempt loads, and what it tells the toolchain about it. -/
theorem CodeWork.eq_of_load {s t : Instrumentor P.observed} {code : Code} {bindless : Bool}
    {calls : List (ToolCall P.tools.Module)} {result : Option InstrumentedCode}
    (h : CodeWork s code bindless calls result t) {loaded : Code} {settings : ModuleSettings}
    {answer : Except Fault P.tools.Module} (hcall : .load loaded settings answer ∈ calls) :
    loaded = code ∧ ∃ resources, s.resources = some resources ∧
      settings = (s.passPlan resources).moduleSettings (s.identify code).1 bindless := by
  cases h with
  | spared => cases hcall
  | found hfound hcache hsubsystem => cases hcall
  | made hready _ hran _ _ | unmodified hready _ hran _ _ | failed hready _ hran _ _ =>
    obtain ⟨hcode, hsettings⟩ := hran.eq_of_load hcall
    exact ⟨hcode, _, hready, hsettings⟩

/-- An attempt does not switch instrumentation on again. -/
theorem CodeWork.inactive {s t : Instrumentor P.observed} {code : Code} {bindless : Bool}
    {calls : List (ToolCall P.tools.Module)} {result : Option InstrumentedCode}
    (h : CodeWork s code bindless calls result t) (hinactive : s.subsystem.active = false) :
    t.subsystem.active = false := by
  cases h with
  | spared => exact hinactive
  | found _ _ hsubsystem | made _ _ _ _ hsubsystem | unmodified _ _ _ _ hsubsystem =>
    rw [hsubsystem]
    exact hinactive
  | failed _ _ _ _ hoff => exact hoff

/-- If a call of an attempt fails, nothing comes of the attempt, the cache stays as it is, and
instrumentation is switched off. -/
theorem CodeWork.of_fails {s t : Instrumentor P.observed} {code : Code} {bindless : Bool}
    {calls : List (ToolCall P.tools.Module)} {result : Option InstrumentedCode}
    (h : CodeWork s code bindless calls result t) {call : ToolCall P.tools.Module}
    (hcall : call ∈ calls) (hfails : call.fails = true) :
    result = none ∧ t.cache = s.cache ∧ t.subsystem.active = false := by
  cases h with
  | spared => cases hcall
  | found hfound hcache hsubsystem => cases hcall
  | made hready hactive hran hcache hsubsystem =>
    obtain ⟨fault, hfault⟩ := hran.exists_fault_of_fails hcall hfails
    cases hfault
  | unmodified hready hactive hran hcache hsubsystem =>
    obtain ⟨fault, hfault⟩ := hran.exists_fault_of_fails hcall hfails
    cases hfault
  | failed hready hactive hran hcache hoff => exact ⟨rfl, hcache, hoff⟩

/-- What running the passes on code that looks like a shader's calls and leaves behind. -/
theorem exists_codeWork_runPasses (s : Instrumentor P.observed) {resources : DeviceResources}
    (hready : s.resources = some resources) (hactive : s.isInstrumenting = true) {code : Code}
    (hmagic : hasMagic code = true) (bindless : Bool) (location : String) :
    ∃ calls, CodeWork s code bindless calls
        ((s.identify code).2.runPasses resources (s.identify code).1 code bindless location).1
        ((s.identify code).2.runPasses resources (s.identify code).1 code bindless location).2 ∧
      s.toWorkbench.Uses calls ((s.identify code).2.runPasses resources (s.identify code).1 code
        bindless location).2.toWorkbench := by
  have hcounted : (s.identify code).2.toWorkbench = s.toWorkbench ∧
      (s.identify code).2.cache = s.cache ∧ (s.identify code).2.subsystem = s.subsystem := by
    obtain ⟨nextId, hidentify⟩ := exists_identify_eq s code
    rw [hidentify]
    exact ⟨rfl, rfl, rfl⟩
  generalize (s.identify code).2 = u at hcounted ⊢
  obtain ⟨hbench, hcache, hsubsystem⟩ := hcounted
  have hplan : u.passPlan resources = s.passPlan resources := by
    unfold passPlan settings
    rw [hsubsystem]
  obtain ⟨calls, hran, hused⟩ := PassPlan.exists_ran (s.passPlan resources) s.toWorkbench code
    (s.identify code).1 bindless
  unfold runPasses
  rw [hplan, hbench]
  generalize (s.passPlan resources).run s.toWorkbench code (s.identify code).1 bindless = ran
    at hran hused ⊢
  obtain ⟨outcome, bench⟩ := ran
  cases outcome with
  | error fault => exact ⟨calls, .failed hready hactive hran hcache rfl, hused⟩
  | ok outcome =>
    cases outcome with
    | instrumented words =>
      obtain ⟨cache, hkeep, hkept⟩ := exists_keep_eq ({ u with toWorkbench := bench } :
        Instrumentor P.observed) (s.identify code).1 words
      simp only [hkeep]
      simp only [hcache] at hkept
      exact ⟨calls, .made hready hactive hran hkept hsubsystem, hused⟩
    | unmodified => exact ⟨calls, .unmodified hready hactive hran hcache hsubsystem, hused⟩
    | notShader =>
      have hnot := hran.not_hasMagic rfl
      rw [hmagic] at hnot
      cases hnot

/-- Every attempt can be told by what it calls and leaves behind. -/
theorem exists_codeWork (s : Instrumentor P.observed) (code : Code) (bindless : Bool)
    (location : String) :
    ∃ calls, CodeWork s code bindless calls (s.instrumentCode code bindless location).1
        (s.instrumentCode code bindless location).2 ∧
      s.toWorkbench.Uses calls (s.instrumentCode code bindless location).2.toWorkbench := by
  unfold instrumentCode
  split
  · exact ⟨[], .spared, rfl⟩
  · next resources hready =>
    by_cases hgate : (s.isInstrumenting && hasMagic code) = true
    · rw [if_pos hgate]
      obtain ⟨hactive, hmagic⟩ := Bool.and_eq_true_iff.mp hgate
      simp only []
      split
      · next words hcached =>
        obtain ⟨nextId, hidentify⟩ := exists_identify_eq s code
        have hfound := get?_cache_of_cached? hcached
        rw [hidentify] at hfound ⊢
        exact ⟨[], .found hfound rfl rfl, rfl⟩
      · exact exists_codeWork_runPasses s hready hactive hmagic bindless location
    · rw [if_neg hgate]
      exact ⟨[], .spared, rfl⟩

theorem resources_instrumentCode (s : Instrumentor P) (code : Code) (bindless : Bool)
    (location : String) : (s.instrumentCode code bindless location).2.resources = s.resources := by
  obtain ⟨bench, subsystem, cache, nextId, hafter, -⟩ :=
    exists_instrumentCode_eq s code bindless location
  rw [hafter]

end Instrumentor

/-- Whether a hook precedes a creation of shaders. -/
def Hook.preparesShaders : Hook → Bool
  | .preparePipelines _ _ | .prepareShaderObjects _ _ => true
  | _ => false

namespace Session

open Instrumentor

/-- Hooks that do not precede a creation of shaders call no tool. -/
theorem tools_step (t : Session P) {hook : Hook} (h : hook.preparesShaders = false) :
    (t.step hook).state.tools = t.state.tools := by
  by_cases hreports : hook.reportsOnly = true
  · obtain ⟨log, subsystem, selectedModules, hafter, -⟩ := onlyReports_step t hreports
    rw [hafter]
  by_cases hrecords : hook.recordsOnly = true
  · obtain ⟨log, device, registry, pipelines, deferred, hafter⟩ := onlyRecords_step t hrecords
    rw [hafter]
  · cases hook with
    | setUpDevice capabilities =>
      obtain ⟨log, device, subsystem, resources, hafter, -⟩ :=
        OnlyDevice.setUpDevice t.state capabilities
      simp only [step, become, hafter]
    | tearDownDevice =>
      obtain ⟨log, device, hafter⟩ := exists_tearDownDevice_eq t.state
      simp only [step, become, hafter]
    | moduleDestroyed module => rfl
    | shaderObjectDestroyed object => rfl
    | shaderObjectsCreated creation objects =>
      simp only [step, finishShaderObjects]
      split
      · rfl
      · next drafts _ =>
        obtain ⟨registry, shaderObjects, hafter⟩ :=
          exists_shaderObjectsCreated_eq t.state drafts objects
        rw [hafter]
    | _ => first | (cases h; done) | exact absurd rfl hreports | exact absurd rfl hrecords

end Session

end ShaderGuard
