import ShaderGuard.Platform
import ShaderGuard.Settings

/-!
Instrumenting one shader.

The order of the passes matters. The checks wrap what they guard, so the recording of descriptor
indexes comes after them and sees guarded accesses; printing comes last, so that no check wraps what
it writes. `PassPlan.run` gives the instrumented code, says that there was nothing to do, or says
why the shader has to stay as it is.
-/

set_option autoImplicit false

namespace ShaderGuard

open Bytecode (ShaderId hasMagic)

/-- The files that are written of one instrumentation. -/
inductive DumpStage where
  /-- The code as it came. -/
  | before
  /-- The code behind the passes. -/
  | after
  /-- The code behind the optimizer. -/
  | optimized
  deriving DecidableEq

/-- The word for a stage in the name of its file. -/
def DumpStage.word : DumpStage → String
  | .before => "before"
  | .after => "after"
  | .optimized => "opt"

/-- The name of the file of a stage. -/
def dumpFileName (id : ShaderId) (stage : DumpStage) : String :=
  s!"dump_{id.toNat}_{stage.word}.spv"

/-- The path of a file in a directory. An empty directory is the one that the program runs in. -/
def pathIn (directory file : String) : String :=
  if directory = "" then file
  else if directory.endsWith "/" then directory ++ file
  else s!"{directory}/{file}"

/-- What the passes depend on besides the shader. -/
structure PassPlan where
  settings : Settings
  capabilities : Capabilities
  /-- The slot of the instrumentation's descriptor set. -/
  outputSet : UInt32
  deriving DecidableEq

/-- What became of a shader. -/
inductive PassOutcome where
  /-- The code to use in its place. -/
  | instrumented (code : Code)
  /-- No pass changed anything. -/
  | unmodified
  /-- The code does not begin with the magic number. -/
  | notShader
  deriving DecidableEq

/-- Run passes one after the other, and tell whether any changed the module. -/
def runPasses {σ : Type} (tools : Toolchain σ) :
    List Pass → tools.Module → σ → Bool × tools.Module × σ
  | [], module, state => (false, module, state)
  | pass :: rest, module, state =>
    let head := tools.run pass module state
    let tail := runPasses tools rest head.2.1 head.2.2
    (head.1 || tail.1, tail.2)

theorem runPasses_append {σ : Type} (tools : Toolchain σ) (first second : List Pass)
    (module : tools.Module) (state : σ) :
    runPasses tools (first ++ second) module state =
      let head := runPasses tools first module state
      let tail := runPasses tools second head.2.1 head.2.2
      (head.1 || tail.1, tail.2) := by
  induction first generalizing module state with
  | nil => simp [runPasses]
  | cons pass rest ih => simp [runPasses, ih, Bool.or_assoc]

namespace PassPlan

/-- What the toolchain is told about a shader. -/
def moduleSettings (plan : PassPlan) (id : ShaderId) (bindless : Bool) : ModuleSettings :=
  { shaderId := id
    outputSet := plan.outputSet
    printInfo := plan.settings.printInstrumentationInfo
    maxInstrumentations := plan.settings.maxInstrumentations
    nonSemanticInfo := plan.capabilities.nonSemanticInfo
    int64 := plan.capabilities.shaderInt64
    memoryModelDeviceScope := plan.capabilities.memoryModelDeviceScope
    bindless }

/-- The passes before the called functions are added, in order. -/
def checkPasses (plan : PassPlan) : List Pass :=
  let checks := plan.settings.checks
  (if checks.bindlessDescriptor then [.bindlessDescriptor, .bufferBounds, .texelBufferBounds]
    else []) ++
  (if checks.bufferDeviceAddress then [.bufferDeviceAddress] else []) ++
  (if checks.rayQuery then [.rayQuery] else []) ++
  (if checks.postProcessDescriptorIndex then [.descriptorIndexing] else [])

/-- The passes after the called functions are added. -/
def printPasses (plan : PassPlan) : List Pass :=
  if plan.settings.printfEnabled then [.printf printfBinding] else []

/-- What the validator is to allow on the device. -/
def validatorOptions (plan : PassPlan) : ValidatorOptions :=
  { relaxBlockLayout := plan.capabilities.relaxedBlockLayout
    scalarBlockLayout := plan.capabilities.scalarBlockLayout
    uniformBufferStandardLayout := plan.capabilities.uniformBufferStandardLayout }

variable {P : Platform}

/-- Write the code of a stage to its file, if the settings ask for it. A failure is logged. -/
def dump (plan : PassPlan) (bench : Workbench P) (id : ShaderId) (stage : DumpStage)
    (code : Code) : Workbench P :=
  if plan.settings.dumpInstrumented then
    let path := pathIn (plan.settings.dumpDirectory.getD "") (dumpFileName id stage)
    let written := P.storage.write path code bench.storage
    let bench := { bench with storage := written.2 }
    match written.1 with
    | .ok () => bench
    | .error reason =>
      bench.record (.plain .warning "gpuav::PassPipeline" s!"Could not write {path}: {reason}")
  else bench

/-- Ask the validator about code, if the settings ask for it. -/
def validate (plan : PassPlan) (bench : Workbench P) (id : ShaderId) (code : Code) :
    Except Fault Unit × Workbench P :=
  if plan.settings.validateInstrumented then
    let verdict := P.tools.validate code plan.capabilities.targetEnv plan.validatorOptions
      bench.tools
    let result := verdict.1.mapError fun diagnostic ↦
      Fault.instrumentationFailed
        (s!"Instrumented shader (id {id.toNat}) is invalid, spirv-val error:\n{diagnostic} " ++
          "Proceeding with non instrumented shader.")
    (result, { bench with tools := verdict.2 })
  else (.ok (), bench)

/-- The entry for a message of the optimizer, if it is about an error. -/
def toolEntry? (message : ToolMessage) : Option Entry :=
  if message.level.isError then
    some (.report .error "gpuav::PassPipeline" .instrumentationError
      s!"Error during shader instrumentation: line {message.position}: {message.text}")
  else none

/-- Let the optimizer drop code that has no effect. Where printing is all there is nothing has been
wrapped, and the code stays as it is. -/
def optimize (plan : PassPlan) (bench : Workbench P) (id : ShaderId) (code : Code) :
    Except Fault Code × Workbench P :=
  if plan.settings.printfOnly then (.ok code, bench)
  else
    let answer := P.tools.eliminateDeadCode code plan.capabilities.targetEnv bench.tools
    let bench :=
      { bench with tools := answer.2.2, log := bench.log ++ answer.2.1.filterMap toolEntry? }
    match answer.1 with
    | .ok optimized => (.ok optimized, plan.dump bench id .optimized optimized)
    | .error reason =>
      (.error (.instrumentationFailed
        (s!"Failure to run spirv-opt DCE on instrumented shader ({reason}). " ++
          "Proceeding with non-instrumented shader.")), bench)

/-- Make code of a changed module: it is made legal, written, validated and optimized. -/
def finish (plan : PassPlan) (bench : Workbench P) (id : ShaderId) (module : P.tools.Module) :
    Except Fault PassOutcome × Workbench P :=
  let legal := P.tools.postProcess module bench.tools
  let written := P.tools.serialize legal.1 legal.2
  let bench := plan.dump { bench with tools := written.2 } id .after written.1
  let verdict := plan.validate bench id written.1
  match verdict.1 with
  | .error fault => (.error fault, verdict.2)
  | .ok () =>
    let optimized := plan.optimize verdict.2 id written.1
    (optimized.1.map .instrumented, optimized.2)

/-- Run the passes on a loaded module, and finish it if any changed it. -/
def instrument (plan : PassPlan) (bench : Workbench P) (id : ShaderId)
    (module : P.tools.Module) : Except Fault PassOutcome × Workbench P :=
  let checked := runPasses P.tools plan.checkPasses module bench.tools
  let linked := P.tools.linkFunctions checked.2.1 checked.2.2
  let printed := runPasses P.tools plan.printPasses linked.1 linked.2
  let bench := { bench with tools := printed.2.2 }
  if checked.1 || printed.1 then plan.finish bench id printed.2.1
  else
    (.ok .unmodified,
      bench.record (.plain .trace "gpuav::PassPipeline" s!"Shader {id.toNat} left unmodified"))

/-- Instrument a shader. A fault means that its code has to stay as it is. -/
def run (plan : PassPlan) (bench : Workbench P) (code : Code) (id : ShaderId) (bindless : Bool) :
    Except Fault PassOutcome × Workbench P :=
  if hasMagic code then
    let bench := plan.dump bench id .before code
    let loaded := P.tools.load code (plan.moduleSettings id bindless) bench.tools
    let bench := { bench with tools := loaded.2 }
    match loaded.1 with
    | .error fault => (.error fault, bench)
    | .ok module => plan.instrument bench id module
  else (.ok .notShader, bench)

/-- Code that is no shader costs no call. -/
theorem run_of_not_hasMagic (plan : PassPlan) (bench : Workbench P) (code : Code) (id : ShaderId)
    (bindless : Bool) (h : hasMagic code = false) :
    plan.run bench code id bindless = (.ok .notShader, bench) := by
  simp [run, h]

end PassPlan

end ShaderGuard
