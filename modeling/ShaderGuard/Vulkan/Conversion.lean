import ShaderGuard.Pipeline.CreateInfo
import ShaderGuard.Reservation

/-!
The library's values in Vulkan's numbers.

Handles are the same 64-bit numbers on both sides, and flags the same bits; what is read from Vulkan
loses the flags that the library does not know.
-/

set_option autoImplicit false

namespace ShaderGuard

/-- The number of a handle in Vulkan. -/
def Handle.toVulkan {kind : ObjectKind} (handle : Handle kind) : UInt64 := handle.raw

/-- The handle of a number in Vulkan. -/
def Handle.ofVulkan {kind : ObjectKind} (raw : UInt64) : Handle kind := ⟨raw⟩

@[simp] theorem Handle.ofVulkan_toVulkan {kind : ObjectKind} (handle : Handle kind) :
    Handle.ofVulkan handle.toVulkan = handle := rfl

/-- The bits of flags that Vulkan keeps in 32 bits. -/
def Flags.toVulkan {space : FlagSpace} (flags : Flags space) : UInt32 := flags.bits.toUInt32

/-- The known flags among 32 bits of Vulkan. -/
def Flags.ofVulkan {space : FlagSpace} (bits : UInt32) : Flags space := .ofBits bits.toUInt64

namespace Vulkan

/-- The bits of all shader stages. -/
def allStages : UInt32 := 0x7fffffff

/-- The bind point of a number, if the library knows it. -/
def bindPoint? (value : Int) : Option BindPoint :=
  if value = 0 then some .graphics
  else if value = 1 then some .compute
  else if value = 1000165000 then some .rayTracing
  else none

/-- The number of a kind of descriptors. -/
def descriptorType : DescriptorKind → UInt32
  | .storageBuffer => 7
  | .uniformBuffer => 6
  | .storageBufferDynamic => 9

/-- A binding of a descriptor set layout. -/
structure LayoutBinding where
  binding : UInt32
  descriptorType : UInt32
  count : UInt32
  stages : UInt32
  deriving DecidableEq

/-- A binding of the instrumentation's set, which every stage may use. -/
def LayoutBinding.ofBinding (binding : SetBinding) : LayoutBinding :=
  ⟨binding.binding, Vulkan.descriptorType binding.kind, binding.count, allStages⟩

/-- The flags of a binding that make its set bindless: updated after it is bound, partially bound,
or of variable count. -/
def bindlessFlags : UInt32 := 0x1 ||| 0x4 ||| 0x8

/-- Whether a set with these flags of its bindings is bindless. -/
def isBindless (bindingFlags : List UInt32) : Bool :=
  bindingFlags.any fun flags ↦ flags &&& bindlessFlags != 0

end Vulkan

end ShaderGuard
