import ShaderGuard.Log
import ShaderGuard.Settings

/-!
Whether instrumentation runs, and what it reports about itself.

Instrumentation starts active. The first internal error switches it off for good, and only that
error is reported (`Subsystem.internalError`); whatever goes wrong later is silent. A warning
switches nothing off.
-/

set_option autoImplicit false

namespace ShaderGuard

/-- The settings, and whether instrumentation is still active. -/
structure Subsystem where
  settings : Settings
  active : Bool := true
  deriving DecidableEq

namespace Subsystem

/-- Whether shaders are being rewritten: instrumentation is active and has something to do. -/
def isInstrumenting (subsystem : Subsystem) : Bool :=
  subsystem.active && subsystem.settings.modifiesShaders

/-- The subsystem, switched off. -/
def disable (subsystem : Subsystem) : Subsystem := { subsystem with active := false }

/-- The report of an internal error. -/
def errorReport (settings : Settings) (location message : String) : Entry :=
  .report .error location (if settings.printfOnly then .printfError else .internalError)
    s!"Internal Error, {settings.layerName} is being disabled. Details:\n{message}"

/-- The report of a problem that costs nothing but coverage. -/
def warningReport (settings : Settings) (location message : String) : Entry :=
  .report .warning location (if settings.printfOnly then .printfWarning else .internalWarning)
    s!"Internal Warning: {message}"

/-- What an internal error adds to the log. -/
def errorEntries (subsystem : Subsystem) (location message : String) : List Entry :=
  if subsystem.active then [errorReport subsystem.settings location message] else []

/-- Switch the subsystem off because of an internal error, and report it if it was active. -/
def internalError (subsystem : Subsystem) (location message : String) :
    Subsystem × List Entry :=
  (subsystem.disable, subsystem.errorEntries location message)

@[simp] theorem settings_disable (subsystem : Subsystem) :
    subsystem.disable.settings = subsystem.settings := rfl

@[simp] theorem active_disable (subsystem : Subsystem) : subsystem.disable.active = false := rfl

@[simp] theorem isInstrumenting_disable (subsystem : Subsystem) :
    subsystem.disable.isInstrumenting = false := rfl

/-- Of two internal errors in a row the second is not reported. -/
theorem errorEntries_disable (subsystem : Subsystem) (location message : String) :
    subsystem.disable.errorEntries location message = [] := rfl

end Subsystem

/-- A guard of the layer's lock. -/
structure LayerGuard where
  /-- Whether the lock is held. -/
  owns : Bool
  deriving DecidableEq

/-- A new guard, for reading or for writing. It takes the lock at once unless locking is
fine-grained. -/
def Subsystem.guard (subsystem : Subsystem) : LayerGuard :=
  ⟨!subsystem.settings.fineGrainedLocking⟩

/-- Take the lock, if it is not held yet. -/
def LayerGuard.acquire (_guard : LayerGuard) : LayerGuard := ⟨true⟩

end ShaderGuard
