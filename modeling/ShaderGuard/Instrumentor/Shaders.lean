import ShaderGuard.Instrumentor.State

/-!
Instrumenting the code of one shader, and the modules that code comes from.

A shader gets an identifier, which is the fingerprint of its code where instrumented code is kept
for use again, and otherwise a number counted up. Code that is no shader gets none. If the passes
fail, instrumentation is switched off and the code stays as it is.
-/

set_option autoImplicit false

namespace ShaderGuard.Instrumentor

open Bytecode (ShaderId hasMagic fingerprint)

variable {P : Platform}

/-- The identifier of a shader that is to be instrumented. -/
def identify (s : Instrumentor P) (code : Code) : ShaderId × Instrumentor P :=
  if s.settings.cacheInstrumentedShaders then (fingerprint code, s)
  else (s.nextId, { s with nextId := s.nextId + 1 })

/-- The instrumented code of an identifier that is kept for use again. -/
def cached? (s : Instrumentor P) (id : ShaderId) : Option Code :=
  if s.settings.cacheInstrumentedShaders then s.cache.get? id else none

/-- Keep instrumented code for use again, if the settings ask for it. -/
def keep (s : Instrumentor P) (id : ShaderId) (code : Code) : Instrumentor P :=
  if s.settings.cacheInstrumentedShaders then { s with cache := s.cache.insert id code } else s

section

variable {s : Instrumentor P} (h : s.settings.cacheInstrumentedShaders = true)
include h

theorem identify_of_keeps (code : Code) : s.identify code = (fingerprint code, s) := if_pos h

theorem cached?_of_keeps (id : ShaderId) : s.cached? id = s.cache.get? id := if_pos h

theorem keep_of_keeps (id : ShaderId) (code : Code) :
    s.keep id code = { s with cache := s.cache.insert id code } := if_pos h

end

theorem identify_of_counts {s : Instrumentor P}
    (hcounts : s.settings.cacheInstrumentedShaders = false) (code : Code) :
    s.identify code = (s.nextId, { s with nextId := s.nextId + 1 }) :=
  if_neg (by rw [hcounts]; exact Bool.false_ne_true)

/-- What a fault of the passes is reported as: a refusal by its reason alone. -/
def passFailure : Fault → String
  | .instrumentationFailed reason => reason
  | fault => fault.message

/-- What the passes depend on besides the shader. -/
def passPlan (s : Instrumentor P) (resources : DeviceResources) : PassPlan :=
  ⟨s.settings, resources.capabilities, resources.reservation.slot⟩

/-- Run the passes on a shader. -/
def runPasses (s : Instrumentor P) (resources : DeviceResources) (id : ShaderId) (code : Code)
    (bindless : Bool) (location : String) : Option InstrumentedCode × Instrumentor P :=
  let ran := (s.passPlan resources).run s.toWorkbench code id bindless
  let s := { s with toWorkbench := ran.2 }
  match ran.1 with
  | .ok (.instrumented made) => (some ⟨id, made⟩, s.keep id made)
  | .ok .unmodified => (none, s)
  | .ok .notShader => (none, s)
  | .error fault => (none, s.internalError location (passFailure fault))

/-- Instrument code: what was made of it, unless it stays as it is. `location` is the call on whose
behalf this is done. -/
def instrumentCode (s : Instrumentor P) (code : Code) (bindless : Bool) (location : String) :
    Option InstrumentedCode × Instrumentor P :=
  match s.resources with
  | none => (none, s)
  | some resources =>
    if s.isInstrumenting && hasMagic code then
      let identified := s.identify code
      match identified.2.cached? identified.1 with
      | some made =>
        (some ⟨identified.1, made⟩, identified.2.record
          (.plain .debug source s!"Shader {identified.1.toNat} found in instrumentation cache"))
      | none => identified.2.runPasses resources identified.1 code bindless location
    else (none, s)

/-- After the application has created a shader module. -/
def moduleCreated (s : Instrumentor P) (module : ModuleHandle) (selected : Bool) :
    Instrumentor P :=
  if s.settings.selectInstrumentedShaders && selected then
    { s with selectedModules := KeySet.add s.selectedModules module }
  else s

/-- Before the application destroys a shader module. -/
def moduleDestroyed (s : Instrumentor P) (module : ModuleHandle) : Instrumentor P :=
  { s with
    registry := (s.registry.eraseModule module).2
    selectedModules := s.selectedModules.erase module }

end ShaderGuard.Instrumentor
