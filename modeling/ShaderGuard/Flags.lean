/-!
Sets of flags, written as the bits of a number.

A flag space lists the flags that are known, in the order in which they are written. Bits that no
flag of the space has are dropped when a set is read (`Flags.ofBits`).
-/

set_option autoImplicit false

namespace ShaderGuard

/-- The flags of one kind. -/
structure FlagSpace where
  /-- The name under which a set of these flags is written. -/
  typeName : String
  /-- Each flag's bit and name. -/
  flags : List (UInt64 × String)

/-- All bits that belong to a flag. -/
def FlagSpace.mask (space : FlagSpace) : UInt64 :=
  space.flags.foldl (fun bits flag ↦ bits ||| flag.1) 0

/-- A set of flags of one kind. -/
structure Flags (space : FlagSpace) where
  bits : UInt64
  deriving DecidableEq

namespace Flags

variable {space : FlagSpace}

/-- The empty set. -/
def empty : Flags space := ⟨0⟩

instance : Inhabited (Flags space) := ⟨empty⟩

/-- The set of the known flags among some bits. -/
def ofBits (bits : UInt64) : Flags space := ⟨bits &&& space.mask⟩

/-- Whether all flags of another set are in this one. -/
def contains (flags other : Flags space) : Bool := flags.bits &&& other.bits == other.bits

/-- The flags of both sets. -/
def union (flags other : Flags space) : Flags space := ⟨flags.bits ||| other.bits⟩

/-- The kind's name with the names of the flags in parentheses, or `0x0` if there are none. -/
def describe (flags : Flags space) : String :=
  let names := (space.flags.filter fun flag ↦ flags.bits &&& flag.1 == flag.1).map Prod.snd
  let inner := if names.isEmpty then "0x0" else String.intercalate " | " names
  s!"{space.typeName}({inner})"

/-- Reading a set twice drops nothing more. -/
theorem ofBits_bits (bits : UInt64) :
    (ofBits (ofBits bits : Flags space).bits : Flags space) = ofBits bits := by
  simp only [ofBits, Flags.mk.injEq]
  rw [UInt64.and_assoc, UInt64.and_self]

end Flags

/-- The shader stages, with their bits in the graphics interface. -/
def FlagSpace.shaderStages : FlagSpace :=
  ⟨"ShaderStageFlags",
    [(0x1, "VERTEX"), (0x2, "TESSELLATION_CONTROL"), (0x4, "TESSELLATION_EVALUATION"),
      (0x8, "GEOMETRY"), (0x10, "FRAGMENT"), (0x20, "COMPUTE"), (0x40, "TASK"), (0x80, "MESH"),
      (0x100, "RAYGEN"), (0x200, "ANY_HIT"), (0x400, "CLOSEST_HIT"), (0x800, "MISS"),
      (0x1000, "INTERSECTION"), (0x2000, "CALLABLE")]⟩

/-- The flags of pipeline creation that matter to instrumentation. -/
def FlagSpace.pipelineCreation : FlagSpace :=
  ⟨"PipelineCreateFlags", [(0x1, "DISABLE_OPTIMIZATION"), (0x800, "LIBRARY")]⟩

/-- The pipeline stages that synchronisation commands name. -/
def FlagSpace.synchronization : FlagSpace :=
  ⟨"PipelineStageFlags",
    [(0x1, "TOP_OF_PIPE"), (0x2, "DRAW_INDIRECT"), (0x8, "VERTEX_SHADER"),
      (0x80, "FRAGMENT_SHADER"), (0x800, "COMPUTE_SHADER"), (0x1000, "TRANSFER"),
      (0x2000, "BOTTOM_OF_PIPE"), (0x4000, "HOST"), (0x8000, "ALL_GRAPHICS"),
      (0x10000, "ALL_COMMANDS")]⟩

/-- A set of shader stages. -/
abbrev ShaderStages := Flags .shaderStages

/-- Flags of a pipeline's creation. -/
abbrev CreationFlags := Flags .pipelineCreation

/-- A set of pipeline stages in a synchronisation command. -/
abbrev SyncStages := Flags .synchronization

/-- The fragment stage. -/
def ShaderStages.fragment : ShaderStages := ⟨0x10⟩

/-- The pipeline is a library, to be linked into others. -/
def CreationFlags.library : CreationFlags := ⟨0x800⟩

/-- Work of the host. -/
def SyncStages.host : SyncStages := ⟨0x4000⟩

end ShaderGuard
