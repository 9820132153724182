import ShaderGuard.Deferred.Queue
import ShaderGuard.Passes.Run
import ShaderGuard.Registry
import ShaderGuard.Sequence
import ShaderGuard.Subsystem

/-!
The state of the instrumentation of one device.

An application's calls are accompanied by hooks: one before a call, which may change what is
created, and one after it, which records what was. Each hook is a function on the state here.
Whatever the library has created for a pipeline is held in one place at a time: first in the draft
that the hook before the creation returns, then in a recording that waits for a deferred operation
or among the objects of a recorded pipeline, until it is destroyed.
-/

set_option autoImplicit false

namespace ShaderGuard

open Bytecode (ShaderId)

/-- Instrumented code with the identifier under which it reports. -/
structure InstrumentedCode where
  id : ShaderId
  code : Code
  deriving DecidableEq

/-- What was done with one stage of a pipeline. -/
structure StageRecord where
  /-- The identifier under which the stage reports, if it runs instrumented code. -/
  shaderId : Option ShaderId
  /-- Whether the instrumented code stands in the stage itself. -/
  inlined : Bool
  /-- The module that the application gave. -/
  module : ModuleHandle
  /-- The code that the application gave. -/
  code : Option Code
  /-- The library that the stage belongs to, as the application gave it. -/
  library : Option PipelineHandle
  deriving DecidableEq

/-- What the library has created for one pipeline. -/
structure PipelineObjects where
  modules : List ModuleHandle := []
  /-- The library in place of one without a fragment stage; null if there is none. -/
  preRasterLibrary : PipelineHandle := .null
  /-- The library in place of one with a fragment stage; null if there is none. -/
  fragmentLibrary : PipelineHandle := .null
  /-- Whether the pipeline has been recorded with an instrumented stage. -/
  instrumented : Bool := false
  deriving DecidableEq

namespace PipelineObjects

/-- Whether there is nothing to remember. -/
def isEmpty (objects : PipelineObjects) : Bool :=
  objects.modules.isEmpty && objects.preRasterLibrary.isNull && objects.fragmentLibrary.isNull &&
    !objects.instrumented

/-- Add modules behind those that are there. -/
def addModules (objects : PipelineObjects) (modules : List ModuleHandle) : PipelineObjects :=
  { objects with modules := objects.modules ++ modules }

/-- Put a library in its place, by whether it has a fragment stage. -/
def setLibrary (objects : PipelineObjects) (fragment : Bool) (library : PipelineHandle) :
    PipelineObjects :=
  if fragment then { objects with fragmentLibrary := library }
  else { objects with preRasterLibrary := library }

/-- The libraries that have to be destroyed with the pipeline. -/
def libraries (objects : PipelineObjects) : List PipelineHandle :=
  [objects.preRasterLibrary, objects.fragmentLibrary].filter fun library ↦ !library.isNull

end PipelineObjects

/-- A pipeline on its way to the driver. -/
structure PipelineDraft where
  /-- What to create in place of what the application asked for. -/
  info : PipelineInfo
  /-- What was done with each stage, the stages of the libraries first. -/
  records : List StageRecord := []
  objects : PipelineObjects := {}

/-- A shader object on its way to the driver. -/
structure ShaderObjectDraft where
  /-- What to create in place of what the application asked for. -/
  info : ShaderObjectInfo
  made : Option InstrumentedCode := none

/-- Pipelines that are recorded when a deferred operation is complete. -/
structure Recording where
  drafts : List PipelineDraft
  /-- Whether their stages are put into the registry. -/
  register : Bool

/-- What exists on a device that has been set up. -/
structure DeviceResources where
  capabilities : Capabilities
  reservation : Reservation
  /-- The layout through which the instrumentation's set is bound on its own. -/
  pipelineLayout : PipelineLayoutHandle
  deriving DecidableEq

/-- The state of the instrumentation of one device. -/
structure Instrumentor (P : Platform) extends Workbench P where
  device : P.DeviceState
  subsystem : Subsystem
  resources : Option DeviceResources := none
  /-- The instrumented code of each identifier. -/
  cache : Table ShaderId Code := .empty
  registry : Registry := .empty
  /-- The next identifier that is counted. -/
  nextId : ShaderId := 1
  /-- The modules for which the application has asked for instrumentation. -/
  selectedModules : KeySet ModuleHandle := .empty
  pipelines : Table PipelineHandle PipelineObjects := .empty
  /-- The shader objects that run instrumented code. -/
  shaderObjects : KeySet ShaderObjectHandle := .empty
  deferred : DeferredQueue Recording := .empty

namespace Instrumentor

variable {P : Platform}

/-- The settings. -/
def settings (s : Instrumentor P) : Settings := s.subsystem.settings

/-- Whether shaders are being rewritten. -/
def isInstrumenting (s : Instrumentor P) : Bool := s.subsystem.isInstrumenting

/-- The reserved slot, once the device is set up. -/
def reservedSlot (s : Instrumentor P) : Option UInt32 :=
  s.resources.map fun resources ↦ resources.reservation.slot

/-- The reservation, once the device is set up. -/
def reservation (s : Instrumentor P) : Option Reservation :=
  s.resources.map DeviceResources.reservation

/-- The layout through which the instrumentation's set is bound on its own; null before the device
is set up. -/
def pipelineLayout (s : Instrumentor P) : PipelineLayoutHandle :=
  (s.resources.map DeviceResources.pipelineLayout).getD .null

/-- Whether a shader object runs instrumented code. -/
def isInstrumented (s : Instrumentor P) (object : ShaderObjectHandle) : Bool :=
  s.shaderObjects.contains object

/-- The state with one more entry in the log. -/
def record (s : Instrumentor P) (entry : Entry) : Instrumentor P :=
  { s with log := s.log ++ [entry] }

/-- The part of the program that speaks in the hooks' own entries. -/
def source : String := "gpuav::Instrumentor"

/-- Report an internal error, and switch instrumentation off. -/
def internalError (s : Instrumentor P) (location message : String) : Instrumentor P :=
  { s with
    subsystem := s.subsystem.disable
    log := s.log ++ s.subsystem.errorEntries location message }

/-- Report a problem that costs nothing but coverage. -/
def warn (s : Instrumentor P) (location message : String) : Instrumentor P :=
  s.record (Subsystem.warningReport s.settings location message)

/-- The state behind a call to the device, with what the call answers. -/
def after {α : Type} (s : Instrumentor P) (reply : Reply P.DeviceState α) : α × Instrumentor P :=
  (reply.value, { s with
    device := reply.state
    log := s.log ++ reply.notes.map Note.entry })

/-- Create a set layout on the device. -/
def createSetLayout (s : Instrumentor P) (bindings : List SetBinding) :
    Except Fault SetLayoutHandle × Instrumentor P :=
  s.after (P.device.createSetLayout bindings s.device)

/-- Create a pipeline layout on the device. -/
def createPipelineLayout (s : Instrumentor P) (layouts : List SetLayoutHandle) :
    Except Fault PipelineLayoutHandle × Instrumentor P :=
  s.after (P.device.createPipelineLayout layouts s.device)

/-- Create a shader module on the device. -/
def createModule (s : Instrumentor P) (code : Code) :
    Except Fault ModuleHandle × Instrumentor P :=
  s.after (P.device.createModule code s.device)

/-- Create a graphics library on the device. -/
def createLibrary (s : Instrumentor P) (info : GraphicsInfo) :
    Except Fault PipelineHandle × Instrumentor P :=
  s.after (P.device.createLibrary info s.device)

/-- Destroy a set layout on the device. -/
def destroySetLayout (s : Instrumentor P) (layout : SetLayoutHandle) : Instrumentor P :=
  (s.after (P.device.destroySetLayout layout s.device)).2

/-- Destroy a pipeline layout on the device. -/
def destroyPipelineLayout (s : Instrumentor P) (layout : PipelineLayoutHandle) :
    Instrumentor P :=
  (s.after (P.device.destroyPipelineLayout layout s.device)).2

/-- Destroy one of the library's own modules on the device. -/
def destroyModule (s : Instrumentor P) (module : ModuleHandle) : Instrumentor P :=
  (s.after (P.device.destroyModule module s.device)).2

/-- Destroy one of the library's own pipelines on the device. -/
def destroyLibrary (s : Instrumentor P) (library : PipelineHandle) : Instrumentor P :=
  (s.after (P.device.destroyPipeline library s.device)).2

@[simp] theorem settings_internalError (s : Instrumentor P) (location message : String) :
    (s.internalError location message).settings = s.settings := rfl

@[simp] theorem isInstrumenting_internalError (s : Instrumentor P) (location message : String) :
    (s.internalError location message).isInstrumenting = false := rfl

@[simp] theorem isInstrumenting_record (s : Instrumentor P) (entry : Entry) :
    (s.record entry).isInstrumenting = s.isInstrumenting := rfl

@[simp] theorem isInstrumenting_after {α : Type} (s : Instrumentor P)
    (reply : Reply P.DeviceState α) : (s.after reply).2.isInstrumenting = s.isInstrumenting := rfl

end Instrumentor

end ShaderGuard
