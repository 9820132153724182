/-!
The execution models of entry points: what kind of stage a shader is.

A module names a model by a number. `ExecutionModel.ofNumber?` reads the number back
(`ofNumber?_number`); a number that no model has is shown as such.
-/

set_option autoImplicit false

namespace ShaderGuard.Bytecode

/-- The kind of stage that an entry point is for. -/
inductive ExecutionModel where
  | vertex
  | tessellationControl
  | tessellationEvaluation
  | geometry
  | fragment
  | compute
  | kernel
  /-- The task stage as one vendor first had it. -/
  | vendorTask
  /-- The mesh stage as one vendor first had it. -/
  | vendorMesh
  | rayGeneration
  | intersection
  | anyHit
  | closestHit
  | miss
  | callable
  | task
  | mesh
  deriving DecidableEq

namespace ExecutionModel

/-- All execution models. -/
def all : List ExecutionModel :=
  [.vertex, .tessellationControl, .tessellationEvaluation, .geometry, .fragment, .compute, .kernel,
    .vendorTask, .vendorMesh, .rayGeneration, .intersection, .anyHit, .closestHit, .miss, .callable,
    .task, .mesh]

/-- The number that stands for a model in a module. -/
def number : ExecutionModel → UInt32
  | .vertex => 0
  | .tessellationControl => 1
  | .tessellationEvaluation => 2
  | .geometry => 3
  | .fragment => 4
  | .compute => 5
  | .kernel => 6
  | .vendorTask => 5267
  | .vendorMesh => 5268
  | .rayGeneration => 5313
  | .intersection => 5314
  | .anyHit => 5315
  | .closestHit => 5316
  | .miss => 5317
  | .callable => 5318
  | .task => 5364
  | .mesh => 5365

/-- The name of a model. -/
def name : ExecutionModel → String
  | .vertex => "Vertex"
  | .tessellationControl => "TessellationControl"
  | .tessellationEvaluation => "TessellationEvaluation"
  | .geometry => "Geometry"
  | .fragment => "Fragment"
  | .compute => "GLCompute"
  | .kernel => "Kernel"
  | .vendorTask => "TaskNV"
  | .vendorMesh => "MeshNV"
  | .rayGeneration => "RayGenerationKHR"
  | .intersection => "IntersectionKHR"
  | .anyHit => "AnyHitKHR"
  | .closestHit => "ClosestHitKHR"
  | .miss => "MissKHR"
  | .callable => "CallableKHR"
  | .task => "TaskEXT"
  | .mesh => "MeshEXT"

/-- The model that a number stands for. -/
def ofNumber? (number : UInt32) : Option ExecutionModel :=
  all.find? fun model ↦ model.number == number

theorem ofNumber?_number (model : ExecutionModel) : ofNumber? model.number = some model := by
  cases model <;> rfl

end ExecutionModel

/-- The name of the execution model that a number stands for. -/
def executionModelName (number : UInt32) : String :=
  match ExecutionModel.ofNumber? number with
  | some model => model.name
  | none => s!"Unknown({number.toNat})"

end ShaderGuard.Bytecode
