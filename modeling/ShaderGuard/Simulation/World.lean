import ShaderGuard.Vulkan.Driver

/-!
A device in memory.

Handles count up from a first one, every call is written down, and a call can be made to fail by its
name. The same world serves as a device (`World.device`) and as the functions of a Vulkan driver
(`World.driver`), so that what the library does to a device can be looked at.
-/

set_option autoImplicit false

namespace ShaderGuard.Simulation

/-- What a call was made with. -/
inductive Argument where
  | bindings (bindings : List SetBinding)
  | layouts (layouts : List UInt64)
  | code (code : Code)
  | library (info : GraphicsInfo)
  | layoutBindings (bindings : List Vulkan.LayoutBinding)
  /-- A library for a Vulkan driver, with the pipeline cache. -/
  | request (cache : UInt64) (request : Vulkan.LibraryRequest)

/-- A call to the device. -/
inductive Call where
  /-- A creation, with the new handle unless it failed. -/
  | creation (name : String) (argument : Argument) (handle : Option UInt64)
  | destruction (name : String) (handle : UInt64)
  | query (name : String)

/-- The state of the device. -/
structure World where
  /-- The handle of the next object. -/
  next : UInt64 := 0x10000
  /-- The objects that have been created and not destroyed. -/
  live : KeySet UInt64 := .empty
  /-- The calls that fail, with their result codes. -/
  failing : List (String × Int) := []
  /-- All calls so far, the latest first. -/
  calls : List Call := []

namespace World

/-- Write a call down. -/
def record (world : World) (call : Call) : World := { world with calls := call :: world.calls }

/-- Let a call succeed from now on. -/
def unfail (world : World) (name : String) : World :=
  { world with failing := world.failing.filter fun entry ↦ entry.1 != name }

/-- Let a call fail from now on. -/
def fail (world : World) (name : String) (code : Int) : World :=
  { world with failing := (name, code) :: (world.unfail name).failing }

/-- Create an object, unless the call fails. -/
def create (name : String) (argument : Argument) (world : World) : Except Int UInt64 × World :=
  match world.failing.lookup name with
  | some code => (.error code, world.record (.creation name argument none))
  | none =>
    let created := world.record (.creation name argument (some world.next))
    (.ok world.next,
      { created with next := world.next + 1, live := KeySet.add world.live world.next })

/-- Destroy an object. -/
def destroy (name : String) (handle : UInt64) (world : World) : World :=
  { world.record (.destruction name handle) with live := world.live.erase handle }

/-- A creation as the library asks for it. -/
def reply {kind : ObjectKind} (name : String) (argument : Argument) (world : World) :
    Reply World (Except Fault (Handle kind)) :=
  let created := world.create name argument
  match created.1 with
  | .ok raw => ⟨.ok ⟨raw⟩, [], created.2⟩
  | .error _ => ⟨.error (.backend s!"{name} failed"), [], created.2⟩

/-- A destruction as the library asks for it. -/
def dismiss {kind : ObjectKind} (name : String) (handle : Handle kind) (world : World) :
    Reply World Unit :=
  ⟨(), [], world.destroy name handle.raw⟩

/-- The world as a device. -/
def device : Device World :=
  { createSetLayout := fun bindings ↦
      reply
        (if bindings.isEmpty then "create_placeholder_layout" else "create_descriptor_set_layout")
        (.bindings bindings)
    createPipelineLayout := fun layouts ↦
      reply "create_pipeline_layout" (.layouts (layouts.map Handle.raw))
    createModule := fun code ↦ reply "create_shader_module" (.code code)
    createLibrary := fun info ↦ reply "create_graphics_pipeline_library" (.library info)
    destroySetLayout := dismiss "destroy_descriptor_set_layout"
    destroyPipelineLayout := dismiss "destroy_pipeline_layout"
    destroyModule := dismiss "destroy_shader_module"
    destroyPipeline := dismiss "destroy_pipeline" }

/-- A result for a Vulkan driver: a code is an error, but for code zero, which means success and
leaves the result as it was before the call. -/
def outcome {α : Type} (unchanged : α) : Except Int α → Except Vulkan.ResultCode α
  | .ok result => .ok result
  | .error code => if code = 0 then .ok unchanged else .error ⟨code⟩

/-- A creation by a Vulkan driver. -/
def returned (name : String) (argument : Argument) (world : World) :
    Except Vulkan.ResultCode UInt64 × World :=
  let created := world.create name argument
  (outcome 0 created.1, created.2)

/-- The world as a Vulkan driver. -/
def driver : Vulkan.Driver World :=
  { createDescriptorSetLayout := fun bindings ↦
      returned "vkCreateDescriptorSetLayout" (.layoutBindings bindings)
    createPipelineLayout := fun layouts ↦ returned "vkCreatePipelineLayout" (.layouts layouts)
    createShaderModule := fun code ↦ returned "vkCreateShaderModule" (.code code)
    createGraphicsPipelines := fun cache request ↦
      returned "vkCreateGraphicsPipelines" (.request cache request)
    destroyDescriptorSetLayout := destroy "vkDestroyDescriptorSetLayout"
    destroyPipelineLayout := destroy "vkDestroyPipelineLayout"
    destroyShaderModule := destroy "vkDestroyShaderModule"
    destroyPipeline := destroy "vkDestroyPipeline" }

end World

/-- What a physical device answers when it is queried. -/
structure Physical where
  properties : Vulkan.DeviceProperties
  features : Vulkan.DeviceFeatures
  features12 : Vulkan.DeviceFeatures12
  /-- The name fields of its extensions. -/
  extensions : List (List UInt8)

/-- A physical device whose queries are written down. Listing its extensions can be made to
fail. -/
def Physical.device (physical : Physical) : Vulkan.PhysicalDevice World :=
  { properties := fun world ↦
      (physical.properties, world.record (.query "vkGetPhysicalDeviceProperties"))
    extensions := fun world ↦
      let name := "vkEnumerateDeviceExtensionProperties"
      let after := world.record (.query name)
      match world.failing.lookup name with
      | some code => (World.outcome [] (.error code), after)
      | none => (.ok physical.extensions, after)
    features := fun world ↦
      (physical.features, world.record (.query "vkGetPhysicalDeviceFeatures"))
    features2 := fun world ↦
      ((physical.features, physical.features12),
        world.record (.query "vkGetPhysicalDeviceFeatures2")) }

end ShaderGuard.Simulation
