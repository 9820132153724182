/-!
The numbers that have a meaning as operands.

Where an instruction names one of several choices by a number, the numbers in use lie scattered,
since each extension took a block of its own. They are listed here as ranges, each by its first and
its last number.
-/

set_option autoImplicit false

namespace ShaderGuard.Bytecode

/-- Whether a number lies in one of some ranges. -/
def inRanges (ranges : List (Nat × Nat)) (number : UInt32) : Bool :=
  ranges.any fun range ↦ range.1 ≤ number.toNat && number.toNat ≤ range.2

/-- Whether a number names one of the ways in which a shader can address memory: through logical
pointers only, or also through those to storage buffers, with number 5348. -/
def isShaderAddressingModel (number : UInt32) : Bool := inRanges [(0, 0), (5348, 5348)] number

/-- Whether a memory model is one for shaders: the older one, with number one, or its successor,
with number three. -/
def isShaderMemoryModel (number : UInt32) : Bool := inRanges [(1, 1), (3, 3)] number

/-- The numbers of execution modes. -/
def executionModeNumbers : List (Nat × Nat) :=
  [(0, 12), (14, 31), (33, 39), (4169, 4171), (4421, 4421), (4446, 4446), (4459, 4463),
    (5017, 5017), (5027, 5027), (5069, 5069), (5071, 5073), (5077, 5077), (5079, 5084),
    (5269, 5270), (5289, 5290), (5298, 5298), (5366, 5371), (5618, 5618), (5620, 5623),
    (5893, 5896), (5903, 5903), (6154, 6154), (6160, 6160), (6417, 6417)]

/-- Whether a number names an execution mode. -/
def isExecutionMode (number : UInt32) : Bool := inRanges executionModeNumbers number

/-- The numbers of decorations. -/
def decorationNumbers : List (Nat × Nat) :=
  [(0, 11), (13, 47), (4469, 4470), (4487, 4488), (4999, 4999), (5019, 5020), (5078, 5078),
    (5091, 5091), (5248, 5248), (5250, 5250), (5252, 5252), (5256, 5256), (5271, 5273),
    (5285, 5285), (5300, 5300), (5355, 5356), (5386, 5386), (5398, 5401), (5599, 5599),
    (5602, 5602), (5607, 5608), (5624, 5628), (5634, 5636), (5822, 5823), (5825, 5836),
    (5899, 5902), (5905, 5905), (5907, 5907), (5909, 5909), (5914, 5915), (5917, 5919),
    (5921, 5921), (5944, 5944), (6080, 6080), (6085, 6085), (6087, 6087), (6140, 6140),
    (6147, 6148), (6168, 6168), (6170, 6170), (6172, 6173), (6175, 6183), (6442, 6443)]

/-- Whether a number names a decoration. -/
def isDecoration (number : UInt32) : Bool := inRanges decorationNumbers number

/-- The numbers of storage classes. -/
def storageClassNumbers : List (Nat × Nat) :=
  [(0, 12), (4172, 4172), (5068, 5068), (5076, 5076), (5328, 5329), (5338, 5339), (5342, 5343),
    (5349, 5349), (5385, 5385), (5402, 5402), (5605, 5605), (5936, 5937)]

/-- Whether a number names a storage class. -/
def isStorageClass (number : UInt32) : Bool := inRanges storageClassNumbers number

/-- Whether a number names the dimensions of an image. -/
def isDimensionality (number : UInt32) : Bool := inRanges [(0, 6), (4173, 4173)] number

/-- The number of the dimensions of an attachment that the same pass has written. -/
def attachmentDimensions : UInt32 := 6

/-- Whether a number says if an image holds depths, or has a sampler: it may be left open. -/
def isIndication (number : UInt32) : Bool := inRanges [(0, 2)] number

/-- Whether a number names the format of an image. -/
def isImageFormat (number : UInt32) : Bool := inRanges [(0, 41)] number

end ShaderGuard.Bytecode
