import ShaderGuard.Passes.Run

/-!
# Deterministic toolchains

A toolchain is deterministic if its answers do not depend on its state. What the passes make of a
shader is then a matter of the shader, of its identifier and of its layout alone: it is the same on
every workbench (`PassPlan.run_eq_of_isDeterministic`). Files are written on the way, but whether
writing them succeeds does not matter.
-/

set_option autoImplicit false

namespace ShaderGuard

open Bytecode (ShaderId hasMagic)

/-- A toolchain whose answers do not depend on its state. What the optimizer says on the way may. -/
structure Toolchain.IsDeterministic {σ : Type} (tools : Toolchain σ) : Prop where
  load : ∀ code settings s t, (tools.load code settings s).1 = (tools.load code settings t).1
  changes : ∀ pass module s t, (tools.run pass module s).1 = (tools.run pass module t).1
  run : ∀ pass module s t, (tools.run pass module s).2.1 = (tools.run pass module t).2.1
  linkFunctions : ∀ module s t, (tools.linkFunctions module s).1 = (tools.linkFunctions module t).1
  postProcess : ∀ module s t, (tools.postProcess module s).1 = (tools.postProcess module t).1
  serialize : ∀ module s t, (tools.serialize module s).1 = (tools.serialize module t).1
  validate : ∀ code target options s t,
    (tools.validate code target options s).1 = (tools.validate code target options t).1
  eliminateDeadCode : ∀ code target s t,
    (tools.eliminateDeadCode code target s).1 = (tools.eliminateDeadCode code target t).1

/-- Passes in a row are as deterministic as each of them. -/
theorem Toolchain.IsDeterministic.runPasses {σ : Type} {tools : Toolchain σ}
    (h : tools.IsDeterministic) (passes : List Pass) (module : tools.Module) (s t : σ) :
    (runPasses tools passes module s).1 = (runPasses tools passes module t).1 ∧
      (runPasses tools passes module s).2.1 = (runPasses tools passes module t).2.1 := by
  induction passes generalizing module s t with
  | nil => exact ⟨rfl, rfl⟩
  | cons pass rest ih =>
    have hhead := h.run pass module s t
    obtain ⟨hchanged, hmodule⟩ := ih (tools.run pass module t).2.1 (tools.run pass module s).2.2
      (tools.run pass module t).2.2
    constructor
    · simp only [ShaderGuard.runPasses, hhead, h.changes pass module s t, hchanged]
    · simp only [ShaderGuard.runPasses, hhead, hmodule]

namespace PassPlan

variable {P : Platform}

theorem validate_eq_of_isDeterministic (h : P.tools.IsDeterministic) (plan : PassPlan)
    (bench other : Workbench P) (id : ShaderId) (code : Code) :
    (plan.validate bench id code).1 = (plan.validate other id code).1 := by
  unfold validate
  by_cases hvalidate : plan.settings.validateInstrumented = true
  · simp only [if_pos hvalidate]
    rw [h.validate code _ _ bench.tools other.tools]
  · simp only [if_neg hvalidate]

theorem optimize_eq_of_isDeterministic (h : P.tools.IsDeterministic) (plan : PassPlan)
    (bench other : Workbench P) (id : ShaderId) (code : Code) :
    (plan.optimize bench id code).1 = (plan.optimize other id code).1 := by
  unfold optimize
  by_cases halone : plan.settings.printfOnly = true
  · simp only [if_pos halone]
  · simp only [if_neg halone]
    rw [h.eliminateDeadCode code _ bench.tools other.tools]
    cases (P.tools.eliminateDeadCode code plan.capabilities.targetEnv other.tools).1 <;> rfl

theorem finish_eq_of_isDeterministic (h : P.tools.IsDeterministic) (plan : PassPlan)
    (bench other : Workbench P) (id : ShaderId) (module : P.tools.Module) :
    (plan.finish bench id module).1 = (plan.finish other id module).1 := by
  have hlegal := h.postProcess module bench.tools other.tools
  have hwritten := h.serialize (P.tools.postProcess module other.tools).1
    (P.tools.postProcess module bench.tools).2 (P.tools.postProcess module other.tools).2
  simp only [finish, hlegal, hwritten]
  -- The workbenches differ from here on; what each is asked for next does not depend on them.
  generalize (P.tools.serialize (P.tools.postProcess module other.tools).1
    (P.tools.postProcess module other.tools).2).1 = written
  generalize plan.dump _ id .after written = left
  generalize plan.dump _ id .after written = right
  rw [plan.validate_eq_of_isDeterministic h left right]
  cases (plan.validate right id written).1 with
  | error fault => rfl
  | ok _ =>
    simp only [plan.optimize_eq_of_isDeterministic h (plan.validate left id written).2
      (plan.validate right id written).2]

theorem instrument_eq_of_isDeterministic (h : P.tools.IsDeterministic) (plan : PassPlan)
    (bench other : Workbench P) (id : ShaderId) (module : P.tools.Module) :
    (plan.instrument bench id module).1 = (plan.instrument other id module).1 := by
  obtain ⟨hchecked, hmodule⟩ := h.runPasses plan.checkPasses module bench.tools other.tools
  have hlinked := h.linkFunctions (runPasses P.tools plan.checkPasses module other.tools).2.1
    (runPasses P.tools plan.checkPasses module bench.tools).2.2
    (runPasses P.tools plan.checkPasses module other.tools).2.2
  simp only [instrument, hchecked, hmodule, hlinked]
  generalize (P.tools.linkFunctions _ (runPasses P.tools plan.checkPasses module bench.tools).2.2).2
    = left
  generalize P.tools.linkFunctions _ (runPasses P.tools plan.checkPasses module other.tools).2.2
    = linked
  obtain ⟨hprinted, hlast⟩ := h.runPasses plan.printPasses linked.1 left linked.2
  rw [hprinted, hlast]
  split
  · exact plan.finish_eq_of_isDeterministic h _ _ id _
  · rfl

/-- Assumes: a deterministic toolchain. What the passes make of a shader does not depend on the
workbench. -/
theorem run_eq_of_isDeterministic (h : P.tools.IsDeterministic) (plan : PassPlan)
    (bench other : Workbench P) (code : Code) (id : ShaderId) (bindless : Bool) :
    (plan.run bench code id bindless).1 = (plan.run other code id bindless).1 := by
  unfold run
  by_cases hmagic : hasMagic code = true
  · simp only [if_pos hmagic]
    rw [h.load code _ _ (plan.dump other id .before code).tools]
    cases (P.tools.load code (plan.moduleSettings id bindless)
        (plan.dump other id .before code).tools).1 with
    | error fault => rfl
    | ok module => exact plan.instrument_eq_of_isDeterministic h _ _ id module
  · simp only [if_neg hmagic]

end PassPlan

end ShaderGuard
