import ShaderGuard.Passes.Toolchain

/-!
A toolchain on marker words.

A module is its header and a body of words. Some words stand for code that a pass looks for, others
for what a pass has put there: the two ends of a guard, a printing with its binding, a recorded
index. This is enough to see which passes ran, in which order and on what.
-/

set_option autoImplicit false

namespace ShaderGuard.Simulation

/-- The beginning of a guard. -/
def guardBegin : UInt32 := 0xb0000001

/-- The end of a guard. -/
def guardEnd : UInt32 := 0xb0000002

/-- Printed output, with its binding behind it. -/
def printOutput : UInt32 := 0xb0000003

/-- The functions that the passes call. -/
def linkedFunctions : UInt32 := 0xb0000004

/-- A recorded descriptor index. -/
def recordedIndex : UInt32 := 0xb0000005

/-- The end of a module that was made legal. -/
def madeLegal : UInt32 := 0xb0000006

/-- An access to a descriptor array. -/
def arrayAccess : UInt32 := 0xa0000001

/-- An access through a buffer's device address. -/
def addressAccess : UInt32 := 0xa0000002

/-- A ray query. -/
def rayQuery : UInt32 := 0xa0000003

/-- A call that prints. -/
def printCall : UInt32 := 0xa0000004

/-- An access to a buffer. -/
def bufferAccess : UInt32 := 0xa0000005

/-- An access to a texel buffer. -/
def texelBufferAccess : UInt32 := 0xa0000006

/-- A word that cannot be loaded. -/
def unparsable : UInt32 := 0xf0000001

/-- A word at which the loader gives up. -/
def unloadable : UInt32 := 0xf0000002

/-- A word that makes code invalid. -/
def undefinedIdentifier : UInt32 := 0xf0000003

/-- A word that the optimizer fails at. -/
def unoptimizable : UInt32 := 0xf0000004

/-- A word that has no effect. -/
def deadCode : UInt32 := 0xdeadc0de

/-- A module that was loaded. -/
structure MarkedModule where
  header : Code
  body : Code
  deriving DecidableEq

/-- A call to the toolchain. Writing a module is not among them. -/
inductive ToolCall where
  | load (settings : ModuleSettings)
  | pass (pass : Pass)
  | linkFunctions
  | postProcess
  | validate (target : TargetEnv) (options : ValidatorOptions)
  | eliminateDeadCode (target : TargetEnv)
  deriving DecidableEq

/-- Guard words that no guard encloses yet: those that are `marker`, and printed output. The answer
says whether `marker` was among them. -/
def guardWords (marker : UInt32) : Nat → Code → Bool × Code
  | _, [] => (false, [])
  | depth, word :: rest =>
    if word = guardBegin then
      let after := guardWords marker (depth + 1) rest
      (after.1, word :: after.2)
    else if word = guardEnd then
      let after := guardWords marker (depth - 1) rest
      (after.1, word :: after.2)
    else
      let after := guardWords marker depth rest
      if depth = 0 ∧ (word = marker ∨ word = printOutput) then
        (after.1 || word == marker, guardBegin :: word :: guardEnd :: after.2)
      else (after.1, word :: after.2)

namespace MarkedModule

/-- Guard a marker. Where there is none to guard the module stays as it is. -/
def guard (marker : UInt32) (module : MarkedModule) : Bool × MarkedModule :=
  let guarded := guardWords marker 0 module.body
  if guarded.1 then (true, { module with body := guarded.2 }) else (false, module)

/-- Put words in place of a marker, and say whether there was one. -/
def replace (marker : UInt32) (words : Code) (module : MarkedModule) : Bool × MarkedModule :=
  (module.body.contains marker,
    { module with
      body := module.body.flatMap fun word ↦ if word = marker then words else [word] })

/-- Run a pass. -/
def run : Pass → MarkedModule → Bool × MarkedModule
  | .bindlessDescriptor => guard arrayAccess
  | .bufferBounds => guard bufferAccess
  | .texelBufferBounds => guard texelBufferAccess
  | .bufferDeviceAddress => guard addressAccess
  | .rayQuery => guard rayQuery
  | .descriptorIndexing => replace arrayAccess [arrayAccess, recordedIndex]
  | .printf binding => replace printCall [printOutput, binding]

/-- Add a word to the body. -/
def push (module : MarkedModule) (word : UInt32) : MarkedModule :=
  { module with body := module.body ++ [word] }

/-- Add the called functions, once, if there is a guard or a recorded index. -/
def link (module : MarkedModule) : MarkedModule :=
  if (module.body.contains guardBegin || module.body.contains recordedIndex) &&
      !module.body.contains linkedFunctions then
    module.push linkedFunctions
  else module

end MarkedModule

/-- The answers that a toolchain is to give. -/
structure ToolScript where
  /-- What loading fails with. -/
  loadFault : Option Fault := none
  /-- What the validator refuses with. -/
  refusal : Option String := none
  /-- What the optimizer fails with. -/
  failure : Option String := none
  /-- What the optimizer says on the way. -/
  messages : List ToolMessage := []

namespace ToolScript

/-- Load a module. It needs a header, and two words make loading fail. -/
def load (script : ToolScript) (code : Code) : Except Fault MarkedModule :=
  let body := code.drop 5
  match script.loadFault with
  | some fault => .error fault
  | none =>
    if code.length < 5 then .error (.invalidShader "module too short")
    else if body.contains unparsable then .error (.invalidShader "unparsable module")
    else if body.contains unloadable then .error (.instrumentationFailed "loader gave up")
    else .ok ⟨code.take 5, body⟩

/-- Validate code. One word makes it invalid. -/
def validate (script : ToolScript) (code : Code) : Except String Unit :=
  match script.refusal with
  | some reason => .error reason
  | none =>
    if code.contains undefinedIdentifier then .error "ID 12 has not been defined" else .ok ()

/-- Drop the words that have no effect. One word makes this fail. -/
def eliminate (script : ToolScript) (code : Code) : Except String Code :=
  match script.failure with
  | some reason => .error reason
  | none =>
    if code.contains unoptimizable then .error "invalid id"
    else .ok (code.filter (· != deadCode))

/-- The toolchain. Its state is the calls so far, the latest first. -/
def tools (script : ToolScript) : Toolchain (List ToolCall) :=
  { Module := MarkedModule
    load := fun code settings calls ↦ (script.load code, .load settings :: calls)
    run := fun pass module calls ↦
      let ran := MarkedModule.run pass module
      (ran.1, ran.2, .pass pass :: calls)
    linkFunctions := fun module calls ↦ (module.link, .linkFunctions :: calls)
    postProcess := fun module calls ↦ (module.push madeLegal, .postProcess :: calls)
    serialize := fun module calls ↦ (module.header ++ module.body, calls)
    validate := fun code target options calls ↦
      (script.validate code, .validate target options :: calls)
    eliminateDeadCode := fun code target calls ↦
      (script.eliminate code, script.messages, .eliminateDeadCode target :: calls) }

end ToolScript

end ShaderGuard.Simulation
