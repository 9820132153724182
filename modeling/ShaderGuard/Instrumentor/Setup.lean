import ShaderGuard.Instrumentor.State

/-!
Setting a device up, and the layouts of pipelines.

A device is set up once it exists: its features are checked, a slot is reserved, and three objects
are created. If any of this fails, what was created is destroyed again and instrumentation is
switched off. From then on the application's pipeline layouts are patched so that the reserved slot
holds the instrumentation's set.
-/

set_option autoImplicit false

namespace ShaderGuard.Instrumentor

variable {P : Platform}

/-- The call with which a device is set up. -/
def deviceCreation : String := "vkCreateDevice"

/-- The call with which a pipeline layout is created. -/
def layoutCreation : String := "vkCreatePipelineLayout"

/-- Give up the setup because a call to the device failed. -/
def setupFailed (s : Instrumentor P) (message : String) (cause : Fault) :
    Fault × Instrumentor P :=
  (.initializationFailed message,
    s.internalError deviceCreation s!"{message} ({cause.message})")

/-- Create the objects for a reserved slot: the layout of the instrumentation's set, the placeholder
and the internal pipeline layout. If one cannot be created, those before it are destroyed. -/
def reserve (s : Instrumentor P) (slot : UInt32) :
    Except Fault (Reservation × PipelineLayoutHandle) × Instrumentor P :=
  let first := s.createSetLayout instrumentationBindings
  match first.1 with
  | .error cause =>
    let failed := first.2.setupFailed
      "vkCreateDescriptorSetLayout failed for internal descriptor set" cause
    (.error failed.1, failed.2)
  | .ok instrumentation =>
    let second := first.2.createSetLayout []
    match second.1 with
    | .error cause =>
      let failed := (second.2.destroySetLayout instrumentation).setupFailed
        "vkCreateDescriptorSetLayout failed for internal dummy descriptor set" cause
      (.error failed.1, failed.2)
    | .ok placeholder =>
      let reservation : Reservation := ⟨slot, placeholder, instrumentation⟩
      let third := second.2.createPipelineLayout reservation.internalLayouts
      match third.1 with
      | .error cause =>
        let cleared := (third.2.destroySetLayout placeholder).destroySetLayout instrumentation
        let failed := cleared.setupFailed
          "vkCreatePipelineLayout failed for internal pipeline layout" cause
        (.error failed.1, failed.2)
      | .ok layout => (.ok (reservation, layout), third.2)

/-- Why a device without a feature cannot be set up. -/
def missingFeatureMessage (feature : RequiredFeature) : String :=
  s!"GPU Shader Instrumentation requires {feature.name} to allow writing out data inside the " ++
    s!"{feature.stageName} shader."

/-- Set the device up. -/
def setUpDevice (s : Instrumentor P) (capabilities : Capabilities) :
    Except Fault Unit × Instrumentor P :=
  if !s.subsystem.active then (.error .subsystemDisabled, s)
  else
    match capabilities.missingFeatures with
    | feature :: _ =>
      let message := missingFeatureMessage feature
      (.error (.initializationFailed message), s.internalError deviceCreation message)
    | [] =>
      match ShaderGuard.reservedSlot capabilities.maxBoundDescriptorSets with
      | .error fault => (.error fault, s.internalError deviceCreation fault.message)
      | .ok slot =>
        let reserved := s.reserve slot
        match reserved.1 with
        | .error fault => (.error fault, reserved.2)
        | .ok (reservation, pipelineLayout) =>
          let ready : Instrumentor P :=
            { reserved.2 with resources := some ⟨capabilities, reservation, pipelineLayout⟩ }
          (.ok (), ready.record (.plain .info source
            s!"Instrumentation descriptor set reserved at slot {slot.toNat}"))

/-- Tear the device down: destroy what its setup created, and forget all instrumented code. -/
def tearDownDevice (s : Instrumentor P) : Instrumentor P :=
  let cleared := match s.resources with
    | none => s
    | some resources =>
      ((s.destroyPipelineLayout resources.pipelineLayout).destroySetLayout
        resources.reservation.instrumentation).destroySetLayout resources.reservation.placeholder
  { cleared with resources := none, cache := .empty }

/-- The number of slots to tell the application of. -/
def advertise (s : Instrumentor P) (limit : UInt32) : UInt32 × Instrumentor P :=
  let advertised := advertisedLimit limit s.settings.reserveBindingSlot
  (advertised.limit,
    advertised.warnings.foldl (fun s text ↦ s.warn "vkGetPhysicalDeviceProperties" text) s)

/-- Before a pipeline layout is created: the set layouts to use in place of the application's, if
they are to be others. -/
def patchPipelineLayout (s : Instrumentor P) (layouts : List SetLayoutHandle) :
    Option (List SetLayoutHandle) × Instrumentor P :=
  match s.reservation with
  | none => (none, s)
  | some reservation =>
    if s.isInstrumenting then
      match reservation.patch layouts with
      | .patched patched => (some patched, s)
      | .conflict count =>
        (none, s.warn layoutCreation (reservation.conflictMessage "Pipeline layout" count))
    else (none, s)

/-- After a pipeline layout was to be created. If the driver has refused a patched layout, no
pipeline could use the reserved slot. -/
def pipelineLayoutCreated (s : Instrumentor P) (patched failed : Bool) : Instrumentor P :=
  if patched && failed then
    s.internalError layoutCreation "Unable to create pipeline layout."
  else s

end ShaderGuard.Instrumentor
