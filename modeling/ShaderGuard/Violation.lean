import ShaderGuard.Bytecode.ExecutionModel
import ShaderGuard.Bytecode.SourceLocation
import ShaderGuard.Decimal.Binary32
import ShaderGuard.Log
import ShaderGuard.Pipeline.CreateInfo
import ShaderGuard.Registry

/-!
Reports of violations in words.

An instrumented shader reports a violation as a few numbers: which shader, which stage, up to three
numbers that tell one invocation of that stage from another, and the index of the instruction.
`Violation.message` turns them into text with the help of the shader's entry in the registry and of
the names that the application has given to its objects.
-/

set_option autoImplicit false

namespace ShaderGuard

open Bytecode (ExecutionModel ShaderId executionModelName instructions sourceMessage)

/-- The stage number of a shader with several entry points. -/
def multipleEntryPoints : UInt32 := 0x7fffffff

/-- A report of an instrumented shader. -/
structure Violation where
  commandBuffer : CommandBufferHandle
  shaderId : ShaderId
  /-- The execution model of the stage, or `multipleEntryPoints`. -/
  stage : UInt32
  /-- The numbers of the invocation. -/
  first : UInt32
  second : UInt32
  third : UInt32
  /-- The index of the instruction, counted from the first one behind the header. -/
  position : UInt32
  bindPoint : BindPoint
  /-- The index of the command in its command buffer. -/
  operation : UInt32
  deriving DecidableEq

/-- The names of the execution models of a module's entry points, which stand before its first
function. -/
def entryPointModels (code : Code) : List String :=
  (((instructions code).takeWhile fun instruction ↦ instruction.opcode != .function).filter
    fun instruction ↦ instruction.opcode == .entryPoint).map
      fun instruction ↦ executionModelName (instruction.word 1)

/-- The invocation of a ray tracing stage in words. -/
private def launchMessage (name : String) (a b c : Nat) : String :=
  s!"Stage = {name}.  Global Launch ID (x,y,z) = ({a}, {b}, {c}). "

/-- The invocation of a task or mesh stage in words. -/
private def workgroupMessage (name : String) (a b c : Nat) : String :=
  s!"Stage = {name}. Global invocation ID (x, y, z) = ({a}, {b}, {c} )"

/-- The invocation of a known stage in words. -/
def stageText? (stage first second third : UInt32) (code : Code) : Option String :=
  let a := first.toNat
  let b := second.toNat
  let c := third.toNat
  let real (bits : UInt32) := (Decimal.Binary32.ofBits bits).text
  if stage = multipleEntryPoints then
    let models := String.intercalate ", " (entryPointModels code)
    some s!"Stage has multiple OpEntryPoint ({models}) and could not detect stage. "
  else
    (ExecutionModel.ofNumber? stage).bind fun
      | .vertex => some s!"Stage = Vertex. Vertex Index = {a} Instance Index = {b}. "
      | .tessellationControl =>
        some s!"Stage = Tessellation Control.  Invocation ID = {a}, Primitive ID = {b}"
      | .tessellationEvaluation =>
        some s!"Stage = Tessellation Eval.  Primitive ID = {a}, TessCoord (u, v) = ({b}, {c}). "
      | .geometry => some s!"Stage = Geometry.  Primitive ID = {a} Invocation ID = {b}. "
      | .fragment =>
        some s!"Stage = Fragment.  Fragment coord (x,y) = ({real first}, {real second}). "
      | .compute => some s!"Stage = Compute.  Global invocation ID (x, y, z) = ({a}, {b}, {c})"
      | .kernel => none
      | .rayGeneration => some (launchMessage "Ray Generation" a b c)
      | .intersection => some (launchMessage "Intersection" a b c)
      | .anyHit => some (launchMessage "Any Hit" a b c)
      | .closestHit => some (launchMessage "Closest Hit" a b c)
      | .miss => some (launchMessage "Miss" a b c)
      | .callable => some (launchMessage "Callable" a b c)
      | .task => some (workgroupMessage "TaskEXT" a b c)
      | .mesh => some (workgroupMessage "MeshEXT" a b c)
      | .vendorTask => some (workgroupMessage "TaskNV" a b c)
      | .vendorMesh => some (workgroupMessage "MeshNV" a b c)

/-- The line that says which invocation of which stage it was. An unknown stage is logged. -/
def stageMessage (stage first second third : UInt32) (code : Code) : Logged String :=
  match stageText? stage first second third code with
  | some text => ⟨text ++ "\n", []⟩
  | none =>
    ⟨s!"Internal Error (unexpected stage = {stage.toNat}). \n",
      [.plain .error "gpuav::Diagnostics"
        s!"Unexpected stage id {stage.toNat} in violation report"]⟩

/-- The names that an application has given to its objects, by handle. -/
abbrev ObjectNames := UInt64 → Option String

/-- The name of an object in parentheses, and nothing if it has none. -/
def objectLabel (names : ObjectNames) (handle : UInt64) : String :=
  match names handle with
  | some name => if name = "" then "" else s!"({name})"
  | none => ""

/-- An object in words: its name and its handle. -/
def objectText {kind : ObjectKind} (names : ObjectNames) (handle : Handle kind) : String :=
  s!"{objectLabel names handle.raw}({handle.prefixedHex})"

/-- What a bind point's commands do. -/
def BindPoint.operationName : BindPoint → String
  | .graphics => "Draw"
  | .compute => "Compute Dispatch"
  | .rayTracing => "Ray Trace"

namespace Violation

/-- The shader's owner in words: a shader object, or a pipeline with the module of the stage. -/
def ownerText (violation : Violation) (shader : InstrumentedShader) (names : ObjectNames) :
    String :=
  let id := s!"(internal ID {Text.hex violation.shaderId.toNat})"
  if shader.module.isNull then s!"Shader Object {objectText names shader.object} {id}\n"
  else
    s!"Pipeline {objectText names shader.pipeline}" ++
      if shader.module = Handle.inlinedStage then
        s!" {id}\nShader Module was passed in via VkPipelineShaderStageCreateInfo::pNext\n"
      else s!"\nShader Module {objectText names shader.module} {id}\n"

/-- The objects in whose use the violation arose in words. -/
def objectsText (violation : Violation) (shader : InstrumentedShader) (names : ObjectNames) :
    String :=
  let commandBuffer := objectText names violation.commandBuffer
  if shader.module.isNull && shader.object.isNull then
    "[Internal Error] - Unable to locate shader/pipeline handles used in command buffer " ++
      s!"{commandBuffer}\n"
  else
    s!"Command buffer {commandBuffer}\n" ++
      s!"\t{violation.bindPoint.operationName} Index {violation.operation.toNat}\n" ++
      violation.ownerText shader names

/-- The whole text of a report, given the registry's entry for its shader. Without code nothing can
be said. -/
def message (violation : Violation) (shader : Option InstrumentedShader) (names : ObjectNames)
    (printfOnly : Bool) : Logged String :=
  match shader.filter fun shader ↦ !shader.code.isEmpty with
  | none => ⟨"[Internal Error] - Can't get instructions from shader_map\n", []⟩
  | some shader =>
    let stage := stageMessage violation.stage violation.first violation.second violation.third
      shader.code
    ⟨stage.value ++ violation.objectsText shader names ++
      sourceMessage shader.code violation.position printfOnly, stage.log⟩

end Violation

end ShaderGuard
