import ShaderGuard.Instrumentor.Pipelines
import ShaderGuard.Instrumentor.Recording

/-!
Shader objects.

A shader object carries its own set layouts, which are patched as those of a pipeline layout are,
and its own code. The registry keeps the instrumented code of a shader object.
-/

set_option autoImplicit false

namespace ShaderGuard

/-- The shader object with its set layouts patched. -/
def ShaderObjectInfo.patched (reservation : Reservation) (info : ShaderObjectInfo) :
    ShaderObjectInfo :=
  { info with
    setLayouts := info.setLayouts ++
      (reservation.fillers info.setLayouts.length).map fun handle ↦ ⟨handle, false⟩ }

namespace Instrumentor

variable {P : Platform}

/-- Instrument the code of a shader object that is already patched, if the application has asked for
it or need not ask. -/
def instrumentObject (location : String) (s : Instrumentor P) (info : ShaderObjectInfo)
    (bindless : Bool) : ShaderObjectDraft × Instrumentor P :=
  if s.settings.selectInstrumentedShaders && !info.selected then ({ info }, s)
  else
    let attempt := s.instrumentCode info.code bindless location
    match attempt.1 with
    | none => ({ info }, attempt.2)
    | some made => (⟨{ info with code := made.code }, some made⟩, attempt.2)

/-- Prepare one shader object of a call. One with a set layout at the reserved slot stays as it
is. -/
def prepareShaderObject (reservation : Reservation) (call : String) (s : Instrumentor P)
    (indexed : ShaderObjectInfo × Nat) : ShaderObjectDraft × Instrumentor P :=
  let info := indexed.1
  let location := elementOf call indexed.2
  match reservation.patch (info.setLayouts.map SetLayout.handle) with
  | .conflict count =>
    ({ info }, s.warn location (reservation.conflictMessage "Shader object" count))
  | .patched _ => instrumentObject location s (info.patched reservation) info.isBindless

/-- Before shader objects are created: what to create in their place. `call` is the application's
call. -/
def prepareShaderObjects (s : Instrumentor P) (infos : List ShaderObjectInfo) (call : String) :
    List ShaderObjectDraft × Instrumentor P :=
  match s.reservation with
  | none => (infos.map fun info ↦ { info }, s)
  | some reservation =>
    if s.isInstrumenting then thread (prepareShaderObject reservation call) s infos.zipIdx
    else (infos.map fun info ↦ { info }, s)

/-- Record one shader object. -/
def recordShaderObject (s : Instrumentor P) (draft : ShaderObjectDraft)
    (object : ShaderObjectHandle) : Instrumentor P :=
  match draft.made with
  | none => s
  | some made =>
    if object.isNull then s
    else
      { s with
        shaderObjects := KeySet.add s.shaderObjects object
        registry := s.registry.insert made.id ⟨.null, .null, object, made.code⟩ }

/-- Record shader objects in order. One for which there is no handle could not be created. -/
def recordShaderObjects (s : Instrumentor P) :
    List ShaderObjectDraft → List ShaderObjectHandle → Instrumentor P
  | [], _ => s
  | draft :: rest, objects =>
    recordShaderObjects (s.recordShaderObject draft (objects.headD .null)) rest objects.tail

/-- After shader objects were created. -/
def shaderObjectsCreated (s : Instrumentor P) (drafts : List ShaderObjectDraft)
    (objects : List ShaderObjectHandle) : Instrumentor P :=
  if s.isInstrumenting then s.recordShaderObjects drafts objects else s

/-- Before the application destroys a shader object. -/
def shaderObjectDestroyed (s : Instrumentor P) (object : ShaderObjectHandle) : Instrumentor P :=
  { s with
    registry := (s.registry.eraseObject object).2
    shaderObjects := s.shaderObjects.erase object }

end Instrumentor

end ShaderGuard
