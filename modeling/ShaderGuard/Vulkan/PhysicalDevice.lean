import ShaderGuard.Capabilities
import ShaderGuard.Device
import ShaderGuard.Vulkan.Result

/-!
The capabilities of a physical device.

`capabilitiesOf` reads them off what has been queried; `queryCapabilities` queries it. The features
that came with version 1.2 can only be queried from that version on.
-/

set_option autoImplicit false

namespace ShaderGuard.Vulkan

/-- The properties of a physical device. -/
structure DeviceProperties where
  /-- The version with its variant. -/
  apiVersion : ApiVersion
  maxBoundDescriptorSets : UInt32
  deriving DecidableEq

/-- The features of a physical device. A feature is there if its number is one. -/
structure DeviceFeatures where
  fragmentStoresAndAtomics : UInt32
  vertexPipelineStoresAndAtomics : UInt32
  shaderInt64 : UInt32
  deriving DecidableEq

/-- The features that came with version 1.2. -/
structure DeviceFeatures12 where
  memoryModelDeviceScope : UInt32
  scalarBlockLayout : UInt32
  uniformBufferStandardLayout : UInt32
  deriving DecidableEq

/-- The text in a field of fixed size: the bytes before the first zero. A field without a zero holds
no text. -/
def fieldText? (field : List UInt8) : Option (List UInt8) :=
  if 0 ∈ field then some (field.takeWhile (· != 0)) else none

/-- The name field of an extension: 256 bytes with the name, and zeros behind it. Of a name that
is too long the field holds the beginning, and no zero. -/
def nameField (name : String) : List UInt8 :=
  let bytes := name.toList.flatMap String.utf8EncodeChar
  (bytes ++ List.replicate (256 - bytes.length) 0).take 256

/-- The texts in the name fields of extensions. -/
def extensionNames (fields : List (List UInt8)) : List (List UInt8) := fields.filterMap fieldText?

/-- Whether an extension is among some. -/
def hasExtension (extensions : List (List UInt8)) (name : String) : Bool :=
  extensions.contains (name.toList.flatMap String.utf8EncodeChar)

/-- The capabilities of a device with these properties, features and extensions. What a version has
made part of the core counts as there. -/
def capabilitiesOf (properties : DeviceProperties) (features : DeviceFeatures)
    (features12 : Option DeviceFeatures12) (extensions : List (List UInt8)) : Capabilities :=
  let version := properties.apiVersion.withoutVariant
  let has12 (feature : DeviceFeatures12 → UInt32) := features12.any fun known ↦ feature known == 1
  { apiVersion := version
    maxBoundDescriptorSets := properties.maxBoundDescriptorSets
    fragmentStoresAndAtomics := features.fragmentStoresAndAtomics == 1
    vertexPipelineStoresAndAtomics := features.vertexPipelineStoresAndAtomics == 1
    shaderInt64 := features.shaderInt64 == 1
    memoryModelDeviceScope := has12 DeviceFeatures12.memoryModelDeviceScope
    nonSemanticInfo :=
      ApiVersion.pack 1 3 0 ≤ version || hasExtension extensions "VK_KHR_shader_non_semantic_info"
    spirv1_4 := ApiVersion.pack 1 2 0 ≤ version || hasExtension extensions "VK_KHR_spirv_1_4"
    relaxedBlockLayout :=
      ApiVersion.pack 1 1 0 ≤ version || hasExtension extensions "VK_KHR_relaxed_block_layout"
    scalarBlockLayout :=
      has12 DeviceFeatures12.scalarBlockLayout ||
        hasExtension extensions "VK_EXT_scalar_block_layout"
    uniformBufferStandardLayout :=
      has12 DeviceFeatures12.uniformBufferStandardLayout ||
        hasExtension extensions "VK_KHR_uniform_buffer_standard_layout" }

/-- The functions that query a physical device, whose state is of type `σ`. -/
structure PhysicalDevice (σ : Type) where
  properties : σ → DeviceProperties × σ
  /-- The name fields of the device's extensions. -/
  extensions : σ → Except ResultCode (List (List UInt8)) × σ
  features : σ → DeviceFeatures × σ
  /-- The features together with those of version 1.2. -/
  features2 : σ → (DeviceFeatures × DeviceFeatures12) × σ

/-- The part of the program that speaks in this backend's entries. -/
def source : String := "gpuav::vulkan"

/-- Query the capabilities of a physical device. Only the list of extensions can fail. -/
def queryCapabilities {σ : Type} (physical : PhysicalDevice σ) (state : σ) :
    Reply σ (Except Fault Capabilities) :=
  let properties := physical.properties state
  let listed := physical.extensions properties.2
  match listed.1 with
  | .error code =>
    let failure := Note.backendFailure source
      s!"vkEnumerateDeviceExtensionProperties failed: {code.text}"
    ⟨.error failure.2, [failure.1], listed.2⟩
  | .ok fields =>
    let extensions := extensionNames fields
    if ApiVersion.pack 1 2 0 ≤ properties.1.apiVersion then
      let features := physical.features2 listed.2
      ⟨.ok (capabilitiesOf properties.1 features.1.1 (some features.1.2) extensions), [],
        features.2⟩
    else
      let features := physical.features listed.2
      ⟨.ok (capabilitiesOf properties.1 features.1 none extensions), [], features.2⟩

end ShaderGuard.Vulkan
