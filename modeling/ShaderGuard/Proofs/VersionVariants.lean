import ShaderGuard.Proofs.Words
import ShaderGuard.Simulation.World

/-!
# Devices that differ in the variant of their version

The top three bits of a packed version are its variant, which says nothing about how new the version
is. The version that is kept among the capabilities has none, and of the kept version it does not
matter whether it is compared as a whole or by its major and minor number
(`ApiVersion.pack_le_withoutVariant_iff`): both have the order of `ApiVersion.AtLeast`.

One comparison is made before the variant is taken off, the one that decides whether the features of
version 1.2 are queried. A version with a variant is greater as a word than every version without
one, so these features are queried of each device that has a variant, however old it is
(`PhysicalDevice.consults_iff`). Two devices that differ only in the variant have the same
capabilities if the version is at least 1.2, or if neither or both have a variant. Otherwise they
have the same capabilities only where the features of version 1.2 add nothing to the extensions
(`variant_ignored_iff`), and `scalar_layout_by_variant` has a device where they add something.
-/

set_option autoImplicit false

namespace ShaderGuard

/-! ### Packed versions -/

namespace ApiVersion

theorem toNat_major (version : ApiVersion) :
    version.major.toNat = version.toNat / 2 ^ 22 % 2 ^ 7 := by
  unfold major
  rw [toNat_and_of_mask _ (by decide : UInt32.toNat 0x7f = 2 ^ 7 - 1),
    toNat_shiftRight_of_lt _ (by decide)]
  rfl

theorem toNat_minor (version : ApiVersion) :
    version.minor.toNat = version.toNat / 2 ^ 12 % 2 ^ 10 := by
  unfold minor
  rw [toNat_and_of_mask _ (by decide : UInt32.toNat 0x3ff = 2 ^ 10 - 1),
    toNat_shiftRight_of_lt _ (by decide)]
  rfl

theorem toNat_patch (version : ApiVersion) : version.patch.toNat = version.toNat % 2 ^ 12 :=
  toNat_and_of_mask version (by decide)

/-- Assumes: numbers that fit their fields. Packed they do not overlap. -/
theorem toNat_pack {major minor patch : UInt32} (hmajor : major.toNat < 2 ^ 10)
    (hminor : minor.toNat < 2 ^ 10) (hpatch : patch.toNat < 2 ^ 12) :
    (pack major minor patch).toNat =
      patch.toNat + 2 ^ 12 * minor.toNat + 2 ^ 22 * major.toNat := by
  have hhigh : (major <<< 22).toNat = 2 ^ 22 * major.toNat :=
    toNat_shiftLeft_of_lt major (by decide) (Nat.mul_lt_mul_of_pos_left hmajor (by decide))
  have hmiddle : (minor <<< 12).toNat = 2 ^ 12 * minor.toNat :=
    toNat_shiftLeft_of_lt minor (by decide)
      (Nat.lt_trans (Nat.mul_lt_mul_of_pos_left hminor (by decide)) (by decide))
  unfold pack
  rw [UInt32.toNat_or, UInt32.toNat_or, hhigh, hmiddle, Nat.or_comm, Nat.or_comm (2 ^ 22 * _),
    ← Nat.or_assoc, or_two_pow_mul _ hpatch, or_two_pow_mul _ (by omega)]

/-- The variant is the part of the word from bit 29 on. -/
theorem toNat_withoutVariant (version : ApiVersion) :
    version.withoutVariant.toNat = version.toNat % 2 ^ 29 := by
  have hmajor := toNat_major version
  have hminor := toNat_minor version
  have hpatch := toNat_patch version
  unfold withoutVariant
  rw [toNat_pack (by omega) (by omega) (by omega), hmajor, hminor, hpatch]
  omega

theorem withoutVariant_eq_and (version : ApiVersion) :
    version.withoutVariant = version &&& 0x1fffffff := by
  apply UInt32.toNat_inj.mp
  rw [toNat_withoutVariant]
  exact (toNat_and_of_mask version (by decide)).symm

@[simp]
theorem major_withoutVariant (version : ApiVersion) :
    version.withoutVariant.major = version.major := by
  apply UInt32.toNat_inj.mp
  rw [toNat_major, toNat_major, toNat_withoutVariant]
  omega

@[simp]
theorem minor_withoutVariant (version : ApiVersion) :
    version.withoutVariant.minor = version.minor := by
  apply UInt32.toNat_inj.mp
  rw [toNat_minor, toNat_minor, toNat_withoutVariant]
  omega

/-- The variant of a version. -/
def variant (version : ApiVersion) : UInt32 := version >>> 29

theorem toNat_variant (version : ApiVersion) : version.variant.toNat = version.toNat / 2 ^ 29 :=
  toNat_shiftRight_of_lt version (by decide)

/-- That two versions differ only in the top three bits. -/
def SameButVariant (version other : ApiVersion) : Prop :=
  version &&& 0x1fffffff = other &&& 0x1fffffff

instance (version other : ApiVersion) : Decidable (version.SameButVariant other) :=
  inferInstanceAs (Decidable (_ = _))

theorem SameButVariant.withoutVariant_eq {version other : ApiVersion}
    (h : version.SameButVariant other) : version.withoutVariant = other.withoutVariant := by
  rw [withoutVariant_eq_and, withoutVariant_eq_and]
  exact h

/-- That a version is 1.`minor` or newer, by its major and minor number. -/
def AtLeast (version : ApiVersion) (minor : UInt32) : Prop :=
  1 < version.major ∨ version.major = 1 ∧ minor ≤ version.minor

instance (version : ApiVersion) (minor : UInt32) : Decidable (version.AtLeast minor) :=
  inferInstanceAs (Decidable (_ ∨ _))

theorem atLeast_withoutVariant (version : ApiVersion) (minor : UInt32) :
    version.withoutVariant.AtLeast minor ↔ version.AtLeast minor := by
  unfold AtLeast
  rw [major_withoutVariant, minor_withoutVariant]

theorem SameButVariant.atLeast_iff {version other : ApiVersion} (h : version.SameButVariant other)
    (minor : UInt32) : version.AtLeast minor ↔ other.AtLeast minor := by
  rw [← atLeast_withoutVariant version, h.withoutVariant_eq, atLeast_withoutVariant]

/-- Assumes: a minor number that fits its field. Words without variants are ordered as their
numbers are. -/
theorem pack_le_withoutVariant_iff (version : ApiVersion) {minor : UInt32}
    (hminor : minor.toNat < 2 ^ 10) :
    pack 1 minor 0 ≤ version.withoutVariant ↔ version.AtLeast minor := by
  have hone : (1 : UInt32).toNat = 1 := rfl
  have hzero : (0 : UInt32).toNat = 0 := rfl
  unfold AtLeast
  rw [UInt32.le_iff_toNat_le, UInt32.lt_iff_toNat_lt, UInt32.le_iff_toNat_le,
    ← UInt32.toNat_inj, toNat_pack (by omega) hminor (by omega), toNat_withoutVariant,
    toNat_major, toNat_minor, hone, hzero]
  omega

/-- Assumes: a minor number that fits its field. As a word, a version with a variant is greater than
every version without one. -/
theorem pack_le_iff (version : ApiVersion) {minor : UInt32} (hminor : minor.toNat < 2 ^ 10) :
    pack 1 minor 0 ≤ version ↔ version.variant ≠ 0 ∨ version.AtLeast minor := by
  have hone : (1 : UInt32).toNat = 1 := rfl
  have hzero : (0 : UInt32).toNat = 0 := rfl
  have hword := version.toNat_lt
  rw [← pack_le_withoutVariant_iff version hminor, UInt32.le_iff_toNat_le, UInt32.le_iff_toNat_le,
    ne_eq, ← UInt32.toNat_inj, toNat_pack (by omega) hminor (by omega), toNat_withoutVariant,
    toNat_variant, hone, hzero]
  omega

end ApiVersion

/-- The environment is told by the major and the minor number. -/
theorem TargetEnv.pick_withoutVariant (version : ApiVersion) (spirv1_4 : Bool) :
    pick version.withoutVariant spirv1_4 = pick version spirv1_4 := by
  unfold pick
  rw [ApiVersion.major_withoutVariant, ApiVersion.minor_withoutVariant]

namespace Vulkan

variable {σ : Type}

/-! ### Capabilities -/

/-- That properties differ only in the variant of the version. -/
structure DeviceProperties.SameButVariant (properties other : DeviceProperties) : Prop where
  apiVersion : properties.apiVersion.SameButVariant other.apiVersion
  maxBoundDescriptorSets : properties.maxBoundDescriptorSets = other.maxBoundDescriptorSets

theorem capabilitiesOf_eq_of_sameButVariant {properties other : DeviceProperties}
    (h : properties.SameButVariant other) (features : DeviceFeatures)
    (features12 : Option DeviceFeatures12) (extensions : List (List UInt8)) :
    capabilitiesOf properties features features12 extensions =
      capabilitiesOf other features features12 extensions := by
  unfold capabilitiesOf
  rw [h.apiVersion.withoutVariant_eq, h.maxBoundDescriptorSets]

/-- That capabilities have the version of a device without its variant, and that what depends on the
version is told by its major and minor number. -/
structure FollowVersion (capabilities : Capabilities) (version : ApiVersion)
    (extensions : List (List UInt8)) : Prop where
  apiVersion : capabilities.apiVersion = version.withoutVariant
  nonSemanticInfo : capabilities.nonSemanticInfo = true ↔
    version.AtLeast 3 ∨ hasExtension extensions "VK_KHR_shader_non_semantic_info" = true
  spirv1_4 : capabilities.spirv1_4 = true ↔
    version.AtLeast 2 ∨ hasExtension extensions "VK_KHR_spirv_1_4" = true
  relaxedBlockLayout : capabilities.relaxedBlockLayout = true ↔
    version.AtLeast 1 ∨ hasExtension extensions "VK_KHR_relaxed_block_layout" = true
  targetEnv : capabilities.targetEnv = .pick version capabilities.spirv1_4

/-- What is there from a version on, or by an extension. -/
theorem decide_pack_le_or_iff (version : ApiVersion) {minor : UInt32}
    (hminor : minor.toNat < 2 ^ 10) (extended : Bool) :
    (decide (ApiVersion.pack 1 minor 0 ≤ version.withoutVariant) || extended) = true ↔
      version.AtLeast minor ∨ extended = true := by
  rw [Bool.or_eq_true, decide_eq_true_iff, version.pack_le_withoutVariant_iff hminor]

theorem followVersion_capabilitiesOf (properties : DeviceProperties) (features : DeviceFeatures)
    (features12 : Option DeviceFeatures12) (extensions : List (List UInt8)) :
    FollowVersion (capabilitiesOf properties features features12 extensions)
      properties.apiVersion extensions where
  apiVersion := rfl
  nonSemanticInfo := decide_pack_le_or_iff _ (by decide) _
  spirv1_4 := decide_pack_le_or_iff _ (by decide) _
  relaxedBlockLayout := decide_pack_le_or_iff _ (by decide) _
  targetEnv := TargetEnv.pick_withoutVariant _ _

/-- That the features of version 1.2 tell nothing that the extensions do not. -/
structure DeviceFeatures12.AddNothing (known : DeviceFeatures12)
    (extensions : List (List UInt8)) : Prop where
  memoryModelDeviceScope : known.memoryModelDeviceScope ≠ 1
  scalarBlockLayout : known.scalarBlockLayout = 1 →
    hasExtension extensions "VK_EXT_scalar_block_layout" = true
  uniformBufferStandardLayout : known.uniformBufferStandardLayout = 1 →
    hasExtension extensions "VK_KHR_uniform_buffer_standard_layout" = true

theorem capabilitiesOf_some_eq_none_iff (properties : DeviceProperties) (features : DeviceFeatures)
    (known : DeviceFeatures12) (extensions : List (List UInt8)) :
    capabilitiesOf properties features (some known) extensions =
        capabilitiesOf properties features none extensions ↔
      known.AddNothing extensions := by
  simp only [capabilitiesOf, Option.any_some, Option.any_none, Bool.false_or, Capabilities.mk.injEq,
    Bool.or_eq_right_iff_imp, beq_iff_eq, beq_eq_false_iff_ne, true_and]
  exact ⟨fun ⟨hmodel, hscalar, huniform⟩ ↦ ⟨hmodel, hscalar, huniform⟩,
    fun h ↦ ⟨h.memoryModelDeviceScope, h.scalarBlockLayout, h.uniformBufferStandardLayout⟩⟩

/-! ### Queries -/

/-- A query of a physical device. -/
inductive DeviceQuery where
  | properties
  | extensions
  | features
  /-- The features together with those of version 1.2. -/
  | features2
  deriving DecidableEq

namespace PhysicalDevice

/-- A physical device that writes every query down, the latest first. -/
def audited (device : PhysicalDevice σ) : PhysicalDevice (σ × List DeviceQuery) where
  properties s :=
    let answer := device.properties s.1
    (answer.1, (answer.2, .properties :: s.2))
  extensions s :=
    let answer := device.extensions s.1
    (answer.1, (answer.2, .extensions :: s.2))
  features s :=
    let answer := device.features s.1
    (answer.1, (answer.2, .features :: s.2))
  features2 s :=
    let answer := device.features2 s.1
    (answer.1, (answer.2, .features2 :: s.2))

/-- That the features of version 1.2 are consulted when the capabilities are queried. -/
def Consults (device : PhysicalDevice σ) (s : σ) : Prop :=
  DeviceQuery.features2 ∈ (queryCapabilities device.audited (s, [])).state.2

/-- The version of a device, with its variant. -/
def version (device : PhysicalDevice σ) (s : σ) : ApiVersion := (device.properties s).1.apiVersion

/-- What a device answers to the second query, the one for its extensions. -/
def listed (device : PhysicalDevice σ) (s : σ) : Except ResultCode (List (List UInt8)) × σ :=
  device.extensions (device.properties s).2

/-- The features of version 1.2, if they are asked for in the third query. -/
def features12 (device : PhysicalDevice σ) (s : σ) : DeviceFeatures12 :=
  (device.features2 (device.listed s).2).1.2

/-- The capabilities that are read off a device with these extensions if the features of version 1.2
are queried. -/
def read12 (device : PhysicalDevice σ) (s : σ) (fields : List (List UInt8)) : Capabilities :=
  capabilitiesOf (device.properties s).1 (device.features2 (device.listed s).2).1.1
    (some (device.features12 s)) (extensionNames fields)

/-- The capabilities that are read off a device with these extensions if the features of version 1.2
are not queried. -/
def readCore (device : PhysicalDevice σ) (s : σ) (fields : List (List UInt8)) : Capabilities :=
  capabilitiesOf (device.properties s).1 (device.features (device.listed s).2).1 none
    (extensionNames fields)

/-- That both queries for the features of a device have the same answer, as far as both tell. -/
def TellsFeaturesAlike (device : PhysicalDevice σ) : Prop :=
  ∀ s, (device.features2 s).1.1 = (device.features s).1

theorem read12_eq_readCore_iff {device : PhysicalDevice σ} (h : device.TellsFeaturesAlike) (s : σ)
    (fields : List (List UInt8)) :
    device.read12 s fields = device.readCore s fields ↔
      (device.features12 s).AddNothing (extensionNames fields) := by
  unfold read12 readCore
  rw [h (device.listed s).2]
  exact capabilitiesOf_some_eq_none_iff _ _ _ _

/-- Without a list of extensions no features are queried. Otherwise those of version 1.2 are queried
of devices with a variant, and of those that are new enough. -/
theorem consults_iff (device : PhysicalDevice σ) (s : σ) :
    device.Consults s ↔ (∃ fields, (device.listed s).1 = .ok fields) ∧
      ((device.version s).variant ≠ 0 ∨ (device.version s).AtLeast 2) := by
  rw [← ApiVersion.pack_le_iff _ (by decide)]
  have hlisted : device.extensions (device.properties s).2 = device.listed s := rfl
  have hversion : (device.properties s).1.apiVersion = device.version s := rfl
  unfold Consults queryCapabilities audited
  simp only [hlisted, hversion]
  cases hanswer : (device.listed s).1 with
  | error code => simp
  | ok fields =>
    by_cases hnew : ApiVersion.pack 1 2 0 ≤ device.version s
    · simp [hnew]
    · simp [hnew]

theorem value_of_not_listed {device : PhysicalDevice σ} {s : σ} {code : ResultCode}
    (h : (device.listed s).1 = .error code) :
    (queryCapabilities device s).value =
      .error (.backend s!"vkEnumerateDeviceExtensionProperties failed: {code.text}") := by
  have hlisted : device.extensions (device.properties s).2 = device.listed s := rfl
  unfold queryCapabilities
  simp only [hlisted, h]
  rfl

/-- Assumes: a list of extensions. The query succeeds. -/
theorem value_of_listed {device : PhysicalDevice σ} {s : σ} {fields : List (List UInt8)}
    (h : (device.listed s).1 = .ok fields) :
    (queryCapabilities device s).value = .ok
      (if ApiVersion.pack 1 2 0 ≤ device.version s then device.read12 s fields
        else device.readCore s fields) := by
  have hlisted : device.extensions (device.properties s).2 = device.listed s := rfl
  have hversion : (device.properties s).1.apiVersion = device.version s := rfl
  unfold queryCapabilities
  simp only [hlisted, h, hversion]
  split <;> rfl

/-- Assumes: a list of extensions. Whatever features are queried, the version that is kept has no
variant, and all else that depends on a version depends on this one. -/
theorem exists_followVersion {device : PhysicalDevice σ} {s : σ} {fields : List (List UInt8)}
    (h : (device.listed s).1 = .ok fields) :
    ∃ capabilities, (queryCapabilities device s).value = .ok capabilities ∧
      FollowVersion capabilities (device.version s) (extensionNames fields) := by
  refine ⟨_, value_of_listed h, ?_⟩
  split
  · exact followVersion_capabilitiesOf _ _ _ _
  · exact followVersion_capabilitiesOf _ _ _ _

/-! ### Two devices -/

/-- That two devices differ only in the variant of their versions. -/
structure SameButVariant (device other : PhysicalDevice σ) : Prop where
  properties : ∀ s, (device.properties s).1.SameButVariant (other.properties s).1
  afterProperties : ∀ s, (device.properties s).2 = (other.properties s).2
  extensions : device.extensions = other.extensions
  features : device.features = other.features
  features2 : device.features2 = other.features2

/-- That of two devices with versions that differ only in the variant the same features are
queried. -/
def AskedAlike (device other : PhysicalDevice σ) (s : σ) : Prop :=
  (device.version s).AtLeast 2 ∨ ((device.version s).variant = 0 ↔ (other.version s).variant = 0)

namespace SameButVariant

variable {device other : PhysicalDevice σ}

theorem listed_eq (same : device.SameButVariant other) (s : σ) :
    device.listed s = other.listed s := by
  unfold listed
  rw [same.extensions, same.afterProperties]

theorem read12_eq (same : device.SameButVariant other) (s : σ) (fields : List (List UInt8)) :
    device.read12 s fields = other.read12 s fields := by
  unfold read12 features12
  rw [same.listed_eq, same.features2, capabilitiesOf_eq_of_sameButVariant (same.properties s)]

theorem readCore_eq (same : device.SameButVariant other) (s : σ) (fields : List (List UInt8)) :
    device.readCore s fields = other.readCore s fields := by
  unfold readCore
  rw [same.listed_eq, same.features, capabilitiesOf_eq_of_sameButVariant (same.properties s)]

theorem askedAlike_iff (same : device.SameButVariant other) (s : σ) :
    device.AskedAlike other s ↔
      (ApiVersion.pack 1 2 0 ≤ device.version s ↔ ApiVersion.pack 1 2 0 ≤ other.version s) := by
  have hversions : (device.version s).AtLeast 2 ↔ (other.version s).AtLeast 2 :=
    (same.properties s).apiVersion.atLeast_iff 2
  unfold AskedAlike
  rw [ApiVersion.pack_le_iff _ (by decide), ApiVersion.pack_le_iff _ (by decide), ← hversions]
  by_cases hnew : (device.version s).AtLeast 2
  · simp only [hnew, true_or, or_true]
  · simp only [hnew, false_or, or_false, ne_eq, Decidable.not_iff_not]

/-- Assumes: devices of which the same features are queried. Not only the capabilities are the same,
but also what is reported and what becomes of the device. -/
theorem queryCapabilities_eq (same : device.SameButVariant other) {s : σ}
    (h : device.AskedAlike other s) : queryCapabilities device s = queryCapabilities other s := by
  have hversion : (device.properties s).1.apiVersion = device.version s := rfl
  have hother : (other.properties s).1.apiVersion = other.version s := rfl
  unfold queryCapabilities
  simp only [same.extensions, same.afterProperties, same.features, same.features2, hversion, hother,
    (same.askedAlike_iff s).mp h, capabilitiesOf_eq_of_sameButVariant (same.properties s)]

/-- Assumes: a list of extensions, and devices of which different features are queried. They have
the same capabilities only if it does not matter which ones are. -/
theorem value_eq_iff_of_not_askedAlike (same : device.SameButVariant other) {s : σ}
    {fields : List (List UInt8)} (hlisted : (device.listed s).1 = .ok fields)
    (h : ¬ device.AskedAlike other s) :
    (queryCapabilities device s).value = (queryCapabilities other s).value ↔
      device.read12 s fields = device.readCore s fields := by
  rw [same.askedAlike_iff, Classical.not_iff] at h
  have hother : (other.listed s).1 = .ok fields := by
    rw [← same.listed_eq]
    exact hlisted
  rw [value_of_listed hlisted, value_of_listed hother, ← same.read12_eq, ← same.readCore_eq,
    Except.ok.injEq]
  by_cases hnew : ApiVersion.pack 1 2 0 ≤ device.version s
  · rw [if_pos hnew, if_neg fun hle ↦ h.mpr hle hnew]
  · rw [if_neg hnew, if_pos (h.mp hnew)]
    exact eq_comm

/-- Two devices without a list of extensions fail alike. -/
theorem value_eq_of_not_listed (same : device.SameButVariant other) {s : σ} {code : ResultCode}
    (h : (device.listed s).1 = .error code) :
    (queryCapabilities device s).value = (queryCapabilities other s).value := by
  rw [value_of_not_listed h, value_of_not_listed (same.listed_eq s ▸ h)]

end SameButVariant

end PhysicalDevice

/-- Assumes: two devices that differ only in the variant of their versions, in any state.

The features of version 1.2 are consulted of a device that lists its extensions exactly if it has a
variant or its version is at least 1.2. The version that is kept has no variant, and all else that
depends on a version depends on the kept one. If the version is at least 1.2, or if neither or both
devices have a variant, the queries are the same in all they do. If both queries for features tell
the same, then these are the only devices with the same capabilities, apart from those whose
features of version 1.2 add nothing to their extensions, and from those that list none. -/
theorem variant_ignored_iff {device other : PhysicalDevice σ} (same : device.SameButVariant other)
    (s : σ) :
    (device.Consults s ↔ (∃ fields, (device.listed s).1 = .ok fields) ∧
      ((device.version s).variant ≠ 0 ∨ (device.version s).AtLeast 2)) ∧
    (∀ fields, (device.listed s).1 = .ok fields →
      ∃ capabilities, (queryCapabilities device s).value = .ok capabilities ∧
        FollowVersion capabilities (device.version s) (extensionNames fields)) ∧
    (device.AskedAlike other s → queryCapabilities device s = queryCapabilities other s) ∧
    (device.TellsFeaturesAlike →
      ((queryCapabilities device s).value = (queryCapabilities other s).value ↔
        device.AskedAlike other s ∨ ∀ fields, (device.listed s).1 = .ok fields →
          (device.features12 s).AddNothing (extensionNames fields))) := by
  refine ⟨device.consults_iff s, fun _ ↦ PhysicalDevice.exists_followVersion,
    same.queryCapabilities_eq, fun halike ↦ ?_⟩
  by_cases hasked : device.AskedAlike other s
  · exact iff_of_true (congrArg Reply.value (same.queryCapabilities_eq hasked)) (Or.inl hasked)
  · cases hlisted : (device.listed s).1 with
    | error code =>
      refine iff_of_true (same.value_eq_of_not_listed hlisted) (Or.inr fun fields hfields ↦ ?_)
      cases hfields
    | ok fields =>
      rw [same.value_eq_iff_of_not_askedAlike hlisted hasked,
        PhysicalDevice.read12_eq_readCore_iff halike]
      simp only [hasked, false_or, Except.ok.injEq, forall_eq']

/-- A device with scalar layouts by its features of version 1.2, and with some extensions. -/
def scalarDevice (version : ApiVersion) (extensions : List String) :
    PhysicalDevice Simulation.World :=
  Simulation.Physical.device ⟨⟨version, 8⟩, ⟨1, 1, 0⟩, ⟨0, 1, 0⟩, extensions.map nameField⟩

theorem sameButVariant_scalarDevice {version other : ApiVersion}
    (h : version.SameButVariant other) (extensions : List String) :
    (scalarDevice version extensions).SameButVariant (scalarDevice other extensions) where
  properties _ := ⟨h, rfl⟩
  afterProperties _ := rfl
  extensions := rfl
  features := rfl
  features2 := rfl

/-- Two devices of version 1.2 have the same capabilities with and without a variant, and the version
that is kept has none. Two devices of version 1.1 that have scalar layouts by an extension have the
same capabilities as well, though the features of version 1.2 are consulted of one of them only. -/
theorem variant_ignored_iff_scalar_layout :
    let new := scalarDevice 0x00402000 []
    let newVaried := scalarDevice 0x20402000 []
    let old := scalarDevice 0x00401000 ["VK_EXT_scalar_block_layout"]
    let oldVaried := scalarDevice 0x20401000 ["VK_EXT_scalar_block_layout"]
    (newVaried.SameButVariant new ∧ queryCapabilities newVaried {} = queryCapabilities new {} ∧
      ∃ capabilities, (queryCapabilities newVaried {}).value = .ok capabilities ∧
        capabilities.apiVersion = 0x00402000) ∧
    (oldVaried.SameButVariant old ∧ oldVaried.TellsFeaturesAlike ∧
      oldVaried.Consults {} ∧ ¬ old.Consults {} ∧
      (queryCapabilities oldVaried {}).value = (queryCapabilities old {}).value) := by
  intro new newVaried old oldVaried
  have hnew : newVaried.SameButVariant new := sameButVariant_scalarDevice (by decide) _
  have hold : oldVaried.SameButVariant old := sameButVariant_scalarDevice (by decide) _
  have hplain : old.SameButVariant oldVaried := sameButVariant_scalarDevice (by decide) _
  have halike : oldVaried.TellsFeaturesAlike := fun _ ↦ rfl
  obtain ⟨-, hfollow, hsame, -⟩ := variant_ignored_iff hnew {}
  obtain ⟨hconsults, -, -, hvalue⟩ := variant_ignored_iff hold {}
  obtain ⟨hconsultsPlain, -⟩ := variant_ignored_iff hplain {}
  obtain ⟨capabilities, hcapabilities, hversion⟩ := hfollow [] rfl
  have hnumbers : ¬ (ApiVersion.variant 0x00401000 ≠ 0 ∨ ApiVersion.AtLeast 0x00401000 2) := by
    decide
  have hadd : oldVaried.features12 {} = ⟨0, 1, 0⟩ := rfl
  refine ⟨⟨hnew, hsame (Or.inl ?_), capabilities, hcapabilities, ?_⟩, hold, halike, ?_, ?_, ?_⟩
  · show ApiVersion.AtLeast 0x20402000 2
    decide
  · rw [hversion.apiVersion]
    show ApiVersion.withoutVariant 0x20402000 = 0x00402000
    decide
  · refine hconsults.mpr ⟨⟨_, rfl⟩, Or.inl ?_⟩
    show ApiVersion.variant 0x20401000 ≠ 0
    decide
  · exact fun h ↦ hnumbers (hconsultsPlain.mp h).2
  · refine (hvalue halike).mpr (Or.inr fun fields hfields ↦ ?_)
    cases hfields
    rw [hadd]
    exact ⟨by decide, fun _ ↦ by decide +kernel, fun h ↦ absurd h (by decide)⟩

/-- The features of version 1.2 are consulted of a device of version 1.1 with a variant, and not of
one without, so that of two devices that differ only in the variant one has scalar layouts. -/
theorem scalar_layout_by_variant :
    let plain := scalarDevice 0x00401000 []
    let varied := scalarDevice 0x20401000 []
    plain.SameButVariant varied ∧ ¬ plain.Consults {} ∧ varied.Consults {} ∧
      ∃ ofPlain ofVaried, (queryCapabilities plain {}).value = .ok ofPlain ∧
        (queryCapabilities varied {}).value = .ok ofVaried ∧
        ofPlain.scalarBlockLayout = false ∧ ofVaried.scalarBlockLayout = true := by
  intro plain varied
  have hnumbers : ¬ (ApiVersion.variant 0x00401000 ≠ 0 ∨ ApiVersion.AtLeast 0x00401000 2) := by
    decide
  have hvariant : ApiVersion.variant 0x20401000 ≠ 0 := by decide
  refine ⟨sameButVariant_scalarDevice (by decide) _, ?_, ?_, _, _, rfl, rfl, by decide, by decide⟩
  · exact fun h ↦ hnumbers (plain.consults_iff {} |>.mp h).2
  · exact (varied.consults_iff {}).mpr ⟨⟨[], rfl⟩, Or.inl hvariant⟩

end Vulkan

end ShaderGuard
