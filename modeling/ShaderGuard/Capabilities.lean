/-!
What a device can do, as far as instrumentation depends on it.
-/

set_option autoImplicit false

namespace ShaderGuard

/-- A packed version number of the graphics interface: three bits of a variant, seven bits major,
ten bits minor and twelve bits patch. -/
abbrev ApiVersion := UInt32

namespace ApiVersion

/-- Pack a version of variant zero. Bits that do not fit a word are lost. -/
def pack (major minor patch : UInt32) : ApiVersion := (major <<< 22) ||| (minor <<< 12) ||| patch

/-- The major number. -/
def major (version : ApiVersion) : UInt32 := (version >>> 22) &&& 0x7f

/-- The minor number. -/
def minor (version : ApiVersion) : UInt32 := (version >>> 12) &&& 0x3ff

/-- The patch number. -/
def patch (version : ApiVersion) : UInt32 := version &&& 0xfff

/-- The version with its variant set to zero. -/
def withoutVariant (version : ApiVersion) : ApiVersion :=
  pack version.major version.minor version.patch

end ApiVersion

/-- The environments that instrumented code is validated and optimized for. -/
inductive TargetEnv where
  | vulkan1_0
  | vulkan1_1
  | vulkan1_1Spirv1_4
  | vulkan1_2
  | vulkan1_3
  deriving DecidableEq

/-- The name of an environment. -/
def TargetEnv.name : TargetEnv → String
  | .vulkan1_0 => "Vulkan1_0"
  | .vulkan1_1 => "Vulkan1_1"
  | .vulkan1_1Spirv1_4 => "Vulkan1_1Spirv1_4"
  | .vulkan1_2 => "Vulkan1_2"
  | .vulkan1_3 => "Vulkan1_3"

/-- The environment of a device: by its version up to 1.2, and the newest for every other
version. -/
def TargetEnv.pick (version : ApiVersion) (spirv1_4 : Bool) : TargetEnv :=
  if version.major = 1 ∧ version.minor = 0 then .vulkan1_0
  else if version.major = 1 ∧ version.minor = 1 then
    if spirv1_4 then .vulkan1_1Spirv1_4 else .vulkan1_1
  else if version.major = 1 ∧ version.minor = 2 then .vulkan1_2
  else .vulkan1_3

/-- A device feature without which nothing can be written out of a shader. -/
inductive RequiredFeature where
  | fragmentStoresAndAtomics
  | vertexPipelineStoresAndAtomics
  deriving DecidableEq

namespace RequiredFeature

/-- The name of the feature. -/
def name : RequiredFeature → String
  | .fragmentStoresAndAtomics => "fragmentStoresAndAtomics"
  | .vertexPipelineStoresAndAtomics => "vertexPipelineStoresAndAtomics"

/-- The stage that cannot write without the feature. -/
def stageName : RequiredFeature → String
  | .fragmentStoresAndAtomics => "fragment"
  | .vertexPipelineStoresAndAtomics => "vertex"

end RequiredFeature

/-- Features and limits of a device. -/
structure Capabilities where
  apiVersion : ApiVersion := ApiVersion.pack 1 3 0
  maxBoundDescriptorSets : UInt32 := 8
  fragmentStoresAndAtomics : Bool := true
  vertexPipelineStoresAndAtomics : Bool := true
  shaderInt64 : Bool := false
  memoryModelDeviceScope : Bool := false
  nonSemanticInfo : Bool := false
  spirv1_4 : Bool := false
  relaxedBlockLayout : Bool := false
  scalarBlockLayout : Bool := false
  uniformBufferStandardLayout : Bool := false
  deriving DecidableEq

namespace Capabilities

/-- The required features that a device lacks. -/
def missingFeatures (capabilities : Capabilities) : List RequiredFeature :=
  (if capabilities.fragmentStoresAndAtomics then [] else [.fragmentStoresAndAtomics]) ++
    if capabilities.vertexPipelineStoresAndAtomics then [] else [.vertexPipelineStoresAndAtomics]

/-- The environment that code for the device is validated and optimized for. -/
def targetEnv (capabilities : Capabilities) : TargetEnv :=
  .pick capabilities.apiVersion capabilities.spirv1_4

end Capabilities

end ShaderGuard
