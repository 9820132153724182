import ShaderGuard.Fault

/-!
The descriptor set slot that is reserved for instrumentation.

Instrumented shaders write what they find through a descriptor set of their own. It is bound at the
last slot that the device has, of which the first 32 are used. A list of set layouts is patched by
filling the slots that the application leaves free with an empty placeholder and putting the
instrumentation's layout at the reserved slot (`Reservation.patch`).
-/

set_option autoImplicit false

namespace ShaderGuard

/-- The number of slots that instrumentation uses at most. -/
def usableSlots : UInt32 := 32

/-- The kinds of descriptors in the instrumentation's set. -/
inductive DescriptorKind where
  | storageBuffer
  | uniformBuffer
  | storageBufferDynamic
  deriving DecidableEq

/-- All kinds of descriptors. -/
def DescriptorKind.all : List DescriptorKind :=
  [.storageBuffer, .uniformBuffer, .storageBufferDynamic]

/-- The name of a kind of descriptors. -/
def DescriptorKind.name : DescriptorKind → String
  | .storageBuffer => "StorageBuffer"
  | .uniformBuffer => "UniformBuffer"
  | .storageBufferDynamic => "StorageBufferDynamic"

/-- One binding of the instrumentation's set. -/
structure SetBinding where
  binding : UInt32
  kind : DescriptorKind
  count : UInt32
  deriving DecidableEq

/-- The binding through which printing from shaders is written. -/
def printfBinding : UInt32 := 1

/-- The bindings of the instrumentation's set: errors, printed output, the state of bindless
descriptors, the accessed array elements, and the index of the running command. -/
def instrumentationBindings : List SetBinding :=
  [⟨0, .storageBuffer, 1⟩, ⟨printfBinding, .storageBuffer, 1⟩, ⟨2, .storageBuffer, 1⟩,
    ⟨3, .storageBuffer, 1⟩, ⟨4, .storageBufferDynamic, 1⟩]

/-- The slot that is reserved on a device with `limit` slots. One slot is not enough: it would
leave none to the application. -/
def reservedSlot (limit : UInt32) : Except Fault UInt32 :=
  let usable := min limit usableSlots
  if usable ≤ 1 then
    .error (.initializationFailed "Device can bind only a single descriptor set.")
  else .ok (usable - 1)

/-- The reserved slot, and the two layouts that lists are patched with. -/
structure Reservation where
  slot : UInt32
  /-- The empty layout for slots that the application leaves free. -/
  placeholder : SetLayoutHandle
  /-- The layout of the instrumentation's set. -/
  instrumentation : SetLayoutHandle
  deriving DecidableEq

/-- What becomes of a list of set layouts. -/
inductive LayoutPatch where
  /-- The list to use in its place. -/
  | patched (layouts : List SetLayoutHandle)
  /-- The list has this many layouts, and one of them stands at the reserved slot. -/
  | conflict (count : Nat)
  deriving DecidableEq

namespace Reservation

/-- The layouts that are put behind `count` layouts of the application. -/
def fillers (reservation : Reservation) (count : Nat) : List SetLayoutHandle :=
  List.replicate (reservation.slot.toNat - count) reservation.placeholder ++
    [reservation.instrumentation]

/-- Patch a list of set layouts: the caller's come first, placeholders fill up to the reserved slot,
and the instrumentation's layout stands there. -/
def patch (reservation : Reservation) (layouts : List SetLayoutHandle) : LayoutPatch :=
  if reservation.slot.toNat < layouts.length then .conflict layouts.length
  else .patched (layouts ++ reservation.fillers layouts.length)

/-- The set layouts of the pipeline layout through which the instrumentation's set is bound on its
own: those of a list without layouts. -/
def internalLayouts (reservation : Reservation) : List SetLayoutHandle := reservation.fillers 0

/-- The warning for an object that cannot be patched. -/
def conflictMessage (reservation : Reservation) (object : String) (count : Nat) : String :=
  s!"{object} has {count} descriptor set layouts, which would be overwritten by the " ++
    s!"instrumentation descriptor set at slot {reservation.slot.toNat}. " ++
    "This object will not be instrumented."

theorem patch_nil (reservation : Reservation) :
    reservation.patch [] = .patched reservation.internalLayouts := by
  simp [patch, internalLayouts]

theorem length_fillers (reservation : Reservation) {count : Nat}
    (h : count ≤ reservation.slot.toNat) :
    count + (reservation.fillers count).length = reservation.slot.toNat + 1 := by
  simp only [fillers, List.length_append, List.length_replicate, List.length_singleton]
  omega

end Reservation

/-- What the application is told of the number of slots. -/
structure AdvertisedLimit where
  limit : UInt32
  warnings : List String
  deriving DecidableEq

/-- The limit to tell the application in place of the device's, with warnings. Where a slot is to
be held back the application is told of one less. A limit of zero is no answer of a device and stays
as it is. -/
def advertisedLimit (limit : UInt32) (reserve : Bool) : AdvertisedLimit :=
  if limit = 0 then ⟨0, []⟩
  else
    let tooLarge :=
      if usableSlots < limit then
        ["A descriptor binding slot is required to store GPU-side information, but the device " ++
          s!"maxBoundDescriptorSets is {limit.toNat} which is too large, so we will be trying " ++
          s!"to use slot {usableSlots.toNat - 1}"]
      else []
    if !reserve then ⟨limit, tooLarge⟩
    else if 1 < limit then ⟨limit - 1, tooLarge⟩
    else
      ⟨limit, tooLarge ++
        ["Unable to reserve descriptor binding slot on a device with only one slot."]⟩

end ShaderGuard
