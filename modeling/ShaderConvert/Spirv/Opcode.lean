import ShaderConvert.Spirv.Operand

/-
The instructions: a name, a number and the pattern of the operands.

The table is kept by shape, since most instructions share theirs with many others. `Opcode.byName?`
and `Opcode.byNumber?` look an instruction up for a module version; a few instructions exist only
from some version on.
-/
namespace ShaderConvert.Spirv

structure Opcode where
  /-- The name without the leading "Op". -/
  name : String
  number : Nat
  operands : Pattern
  /-- The minor version that brought the instruction, if nothing else can enable it. -/
  since : Nat := 0
deriving Repr, DecidableEq, Inhabited

namespace Opcode

def hasResult (o : Opcode) : Bool := o.operands.contains .resultId

def hasType (o : Opcode) : Bool := o.operands.contains .typeId

/-- Does the instruction declare a type? -/
def declaresType (o : Opcode) : Bool :=
  (19 ≤ o.number && o.number ≤ 38) || [322, 327, 4456, 4472, 5281, 5341, 5358].contains o.number

/-- Instructions of one shape. -/
def shaped (operands : Pattern) (entries : List (String × Nat)) : List Opcode :=
  entries.map fun (n, k) => ⟨n, k, operands, 0⟩

open OperandKind

/-- The type and the result, as most instructions have them first. -/
def valued (operands : Pattern) : Pattern := typeId :: resultId :: operands

def bare : List Opcode :=
  shaped [] [("Nop", 0), ("FunctionEnd", 56), ("EmitVertex", 218), ("EndPrimitive", 219),
    ("Kill", 252), ("Return", 253), ("Unreachable", 255), ("NoLine", 317),
    ("TerminateInvocation", 4416), ("DemoteToHelperInvocation", 5380)]

def debugging : List Opcode :=
  [⟨"SourceContinued", 2, [string], 0⟩,
    ⟨"Source", 3, [named .sourceLanguage, integer, optionalId, optionalString], 0⟩,
    ⟨"SourceExtension", 4, [string], 0⟩, ⟨"Name", 5, [id, string], 0⟩,
    ⟨"MemberName", 6, [id, integer, string], 0⟩, ⟨"String", 7, [resultId, string], 0⟩,
    ⟨"Line", 8, [id, integer, integer], 0⟩, ⟨"ModuleProcessed", 330, [string], 1⟩]

def settings : List Opcode :=
  [⟨"Extension", 10, [string], 0⟩, ⟨"ExtInstImport", 11, [resultId, string], 0⟩,
    ⟨"ExtInst", 12, valued [id, extendedInstruction], 0⟩,
    ⟨"MemoryModel", 14, [named .addressingModel, named .memoryModel], 0⟩,
    ⟨"EntryPoint", 15, [named .executionModel, id, string, ids], 0⟩,
    ⟨"ExecutionMode", 16, [id, named .executionMode], 0⟩,
    ⟨"Capability", 17, [named .capability], 0⟩,
    ⟨"ExecutionModeId", 331, [id, named .executionMode], 2⟩]

def annotations : List Opcode :=
  [⟨"Decorate", 71, [id, named .decoration], 0⟩,
    ⟨"MemberDecorate", 72, [id, integer, named .decoration], 0⟩,
    ⟨"DecorationGroup", 73, [resultId], 0⟩, ⟨"GroupDecorate", 74, [id, ids], 0⟩,
    ⟨"GroupMemberDecorate", 75, [id, idIntegerPairs], 0⟩,
    ⟨"DecorateId", 332, [id, named .decoration], 0⟩,
    ⟨"DecorateString", 5632, [id, named .decoration], 0⟩,
    ⟨"MemberDecorateString", 5633, [id, integer, named .decoration], 0⟩]

def types : List Opcode :=
  shaped [resultId] [("TypeVoid", 19), ("TypeBool", 20), ("TypeSampler", 26), ("TypeEvent", 34),
    ("TypeDeviceEvent", 35), ("TypeReserveId", 36), ("TypeQueue", 37), ("TypePipeStorage", 322),
    ("TypeNamedBarrier", 327), ("TypeRayQueryKHR", 4472), ("TypeHitObjectNV", 5281),
    ("TypeAccelerationStructureKHR", 5341)]
  ++ [⟨"TypeInt", 21, [resultId, integer, integer], 0⟩, ⟨"TypeFloat", 22, [resultId, integer], 0⟩,
    ⟨"TypeVector", 23, [resultId, id, integer], 0⟩,
    ⟨"TypeMatrix", 24, [resultId, id, integer], 0⟩,
    ⟨"TypeImage", 25, [resultId, id, named .dimensionality, integer, integer, integer, integer,
      named .imageFormat, optionalNamed .accessQualifier], 0⟩,
    ⟨"TypeSampledImage", 27, [resultId, id], 0⟩, ⟨"TypeArray", 28, [resultId, id, id], 0⟩,
    ⟨"TypeRuntimeArray", 29, [resultId, id], 0⟩, ⟨"TypeStruct", 30, [resultId, ids], 0⟩,
    ⟨"TypeOpaque", 31, [resultId, string], 0⟩,
    ⟨"TypePointer", 32, [resultId, named .storageClass, id], 0⟩,
    ⟨"TypeFunction", 33, [resultId, id, ids], 0⟩,
    ⟨"TypePipe", 38, [resultId, named .accessQualifier], 0⟩,
    ⟨"TypeForwardPointer", 39, [id, named .storageClass], 0⟩]

def constants : List Opcode :=
  shaped (valued []) [("Undef", 1), ("ConstantTrue", 41), ("ConstantFalse", 42),
    ("ConstantNull", 46), ("SpecConstantTrue", 48), ("SpecConstantFalse", 49)]
  ++ shaped (valued [typedNumber]) [("Constant", 43), ("SpecConstant", 50)]
  ++ shaped (valued [ids]) [("ConstantComposite", 44), ("SpecConstantComposite", 51),
    ("CompositeConstruct", 80), ("Phi", 245)]
  ++ [⟨"ConstantSampler", 45,
      valued [named .samplerAddressingMode, integer, named .samplerFilterMode], 0⟩,
    ⟨"SpecConstantOp", 52, valued [constantOpcode], 0⟩]

def functions : List Opcode :=
  [⟨"Function", 54, valued [named .functionControl, id], 0⟩,
    ⟨"FunctionParameter", 55, valued [], 0⟩, ⟨"FunctionCall", 57, valued [id, ids], 0⟩]

def memory : List Opcode :=
  [⟨"Variable", 59, valued [named .storageClass, optionalId], 0⟩,
    ⟨"ImageTexelPointer", 60, valued [id, id, id], 0⟩,
    ⟨"Load", 61, valued [id, optionalNamed .memoryAccess], 0⟩,
    ⟨"Store", 62, [id, id, optionalNamed .memoryAccess], 0⟩,
    ⟨"CopyMemory", 63, [id, id, optionalNamed .memoryAccess, optionalNamed .memoryAccess], 0⟩,
    ⟨"CopyMemorySized", 64,
      [id, id, id, optionalNamed .memoryAccess, optionalNamed .memoryAccess], 0⟩,
    ⟨"AccessChain", 65, valued [id, ids], 0⟩, ⟨"InBoundsAccessChain", 66, valued [id, ids], 0⟩,
    ⟨"PtrAccessChain", 67, valued [id, id, ids], 0⟩, ⟨"ArrayLength", 68, valued [id, integer], 0⟩,
    ⟨"InBoundsPtrAccessChain", 70, valued [id, id, ids], 0⟩,
    ⟨"PtrEqual", 401, valued [id, id], 4⟩, ⟨"PtrNotEqual", 402, valued [id, id], 4⟩,
    ⟨"PtrDiff", 403, valued [id, id], 0⟩]

def composites : List Opcode :=
  [⟨"VectorShuffle", 79, valued [id, id, integers], 0⟩,
    ⟨"CompositeExtract", 81, valued [id, integers], 0⟩,
    ⟨"CompositeInsert", 82, valued [id, id, integers], 0⟩,
    ⟨"CopyLogical", 400, valued [id], 4⟩]

def unary : List Opcode :=
  shaped (valued [id]) [("GenericPtrMemSemantics", 69), ("CopyObject", 83), ("Transpose", 84),
    ("Image", 100), ("ImageQueryFormat", 101), ("ImageQueryOrder", 102), ("ImageQuerySize", 104),
    ("ImageQueryLevels", 106), ("ImageQuerySamples", 107), ("ConvertFToU", 109),
    ("ConvertFToS", 110), ("ConvertSToF", 111), ("ConvertUToF", 112), ("UConvert", 113),
    ("SConvert", 114), ("FConvert", 115), ("QuantizeToF16", 116), ("ConvertPtrToU", 117),
    ("SatConvertSToU", 118), ("SatConvertUToS", 119), ("ConvertUToPtr", 120),
    ("PtrCastToGeneric", 121), ("GenericCastToPtr", 122), ("Bitcast", 124), ("SNegate", 126),
    ("FNegate", 127), ("Any", 154), ("All", 155), ("IsNan", 156), ("IsInf", 157),
    ("IsFinite", 158), ("IsNormal", 159), ("SignBitSet", 160), ("LogicalNot", 168), ("Not", 200),
    ("BitReverse", 204), ("BitCount", 205), ("DPdx", 207), ("DPdy", 208), ("Fwidth", 209),
    ("DPdxFine", 210), ("DPdyFine", 211), ("FwidthFine", 212), ("DPdxCoarse", 213),
    ("DPdyCoarse", 214), ("FwidthCoarse", 215), ("ImageSparseTexelsResident", 316),
    ("SizeOf", 321)]

def binary : List Opcode :=
  shaped (valued [id, id]) [("VectorExtractDynamic", 77), ("SampledImage", 86),
    ("ImageQuerySizeLod", 103), ("ImageQueryLod", 105), ("IAdd", 128), ("FAdd", 129),
    ("ISub", 130), ("FSub", 131), ("IMul", 132), ("FMul", 133), ("UDiv", 134), ("SDiv", 135),
    ("FDiv", 136), ("UMod", 137), ("SRem", 138), ("SMod", 139), ("FRem", 140), ("FMod", 141),
    ("VectorTimesScalar", 142), ("MatrixTimesScalar", 143), ("VectorTimesMatrix", 144),
    ("MatrixTimesVector", 145), ("MatrixTimesMatrix", 146), ("OuterProduct", 147), ("Dot", 148),
    ("IAddCarry", 149), ("ISubBorrow", 150), ("UMulExtended", 151), ("SMulExtended", 152),
    ("LessOrGreater", 161), ("Ordered", 162), ("Unordered", 163), ("LogicalEqual", 164),
    ("LogicalNotEqual", 165), ("LogicalOr", 166), ("LogicalAnd", 167), ("IEqual", 170),
    ("INotEqual", 171), ("UGreaterThan", 172), ("SGreaterThan", 173), ("UGreaterThanEqual", 174),
    ("SGreaterThanEqual", 175), ("ULessThan", 176), ("SLessThan", 177), ("ULessThanEqual", 178),
    ("SLessThanEqual", 179), ("FOrdEqual", 180), ("FUnordEqual", 181), ("FOrdNotEqual", 182),
    ("FUnordNotEqual", 183), ("FOrdLessThan", 184), ("FUnordLessThan", 185),
    ("FOrdGreaterThan", 186), ("FUnordGreaterThan", 187), ("FOrdLessThanEqual", 188),
    ("FUnordLessThanEqual", 189), ("FOrdGreaterThanEqual", 190), ("FUnordGreaterThanEqual", 191),
    ("ShiftRightLogical", 194), ("ShiftRightArithmetic", 195), ("ShiftLeftLogical", 196),
    ("BitwiseOr", 197), ("BitwiseXor", 198), ("BitwiseAnd", 199)]

def wider : List Opcode :=
  shaped (valued [id, id, id]) [("VectorInsertDynamic", 78), ("Select", 169),
    ("BitFieldSExtract", 202), ("BitFieldUExtract", 203)]
  ++ [⟨"BitFieldInsert", 201, valued [id, id, id, id], 0⟩,
    ⟨"GenericCastToPtrExplicit", 123, valued [id, named .storageClass], 0⟩]

def images : List Opcode :=
  shaped (valued [id, id, optionalNamed .imageOperands]) [("ImageSampleImplicitLod", 87),
    ("ImageSampleProjImplicitLod", 91), ("ImageFetch", 95), ("ImageRead", 98),
    ("ImageSparseSampleImplicitLod", 305), ("ImageSparseSampleProjImplicitLod", 309),
    ("ImageSparseFetch", 313), ("ImageSparseRead", 320)]
  ++ shaped (valued [id, id, named .imageOperands]) [("ImageSampleExplicitLod", 88),
    ("ImageSampleProjExplicitLod", 92), ("ImageSparseSampleExplicitLod", 306),
    ("ImageSparseSampleProjExplicitLod", 310)]
  ++ shaped (valued [id, id, id, optionalNamed .imageOperands])
    [("ImageSampleDrefImplicitLod", 89), ("ImageSampleProjDrefImplicitLod", 93),
      ("ImageGather", 96), ("ImageDrefGather", 97), ("ImageSparseSampleDrefImplicitLod", 307),
      ("ImageSparseSampleProjDrefImplicitLod", 311), ("ImageSparseGather", 314),
      ("ImageSparseDrefGather", 315)]
  ++ shaped (valued [id, id, id, named .imageOperands])
    [("ImageSampleDrefExplicitLod", 90), ("ImageSampleProjDrefExplicitLod", 94),
      ("ImageSparseSampleDrefExplicitLod", 308), ("ImageSparseSampleProjDrefExplicitLod", 312)]
  ++ [⟨"ImageWrite", 99, [id, id, id, optionalNamed .imageOperands], 0⟩]

def control : List Opcode :=
  [⟨"LoopMerge", 246, [id, id, named .loopControl], 0⟩,
    ⟨"SelectionMerge", 247, [id, named .selectionControl], 0⟩, ⟨"Label", 248, [resultId], 0⟩,
    ⟨"Branch", 249, [id], 0⟩, ⟨"BranchConditional", 250, [id, id, id, integers], 0⟩,
    ⟨"Switch", 251, [id, id, integerIdPairs], 0⟩, ⟨"ReturnValue", 254, [id], 0⟩,
    ⟨"LifetimeStart", 256, [id, integer], 0⟩, ⟨"LifetimeStop", 257, [id, integer], 0⟩]

def atomics : List Opcode :=
  [⟨"AtomicLoad", 227, valued [id, scopeId, memorySemanticsId], 0⟩,
    ⟨"AtomicStore", 228, [id, scopeId, memorySemanticsId, id], 0⟩,
    ⟨"AtomicFlagTestAndSet", 318, valued [id, scopeId, memorySemanticsId], 0⟩,
    ⟨"AtomicFlagClear", 319, [id, scopeId, memorySemanticsId], 0⟩]
  ++ shaped (valued [id, scopeId, memorySemanticsId, memorySemanticsId, id, id])
    [("AtomicCompareExchange", 230), ("AtomicCompareExchangeWeak", 231)]
  ++ shaped (valued [id, scopeId, memorySemanticsId]) [("AtomicIIncrement", 232),
    ("AtomicIDecrement", 233)]
  ++ shaped (valued [id, scopeId, memorySemanticsId, id]) [("AtomicExchange", 229),
    ("AtomicIAdd", 234), ("AtomicISub", 235), ("AtomicSMin", 236), ("AtomicUMin", 237),
    ("AtomicSMax", 238), ("AtomicUMax", 239), ("AtomicAnd", 240), ("AtomicOr", 241),
    ("AtomicXor", 242), ("AtomicFMinEXT", 5614), ("AtomicFMaxEXT", 5615),
    ("AtomicFAddEXT", 6035)]

def groups : List Opcode :=
  [⟨"EmitStreamVertex", 220, [id], 0⟩, ⟨"EndStreamPrimitive", 221, [id], 0⟩,
    ⟨"ControlBarrier", 224, [scopeId, scopeId, memorySemanticsId], 0⟩,
    ⟨"MemoryBarrier", 225, [scopeId, memorySemanticsId], 0⟩,
    ⟨"GroupAsyncCopy", 259, valued [scopeId, id, id, id, id, id], 0⟩,
    ⟨"GroupWaitEvents", 260, [scopeId, id, id], 0⟩, ⟨"GroupAll", 261, valued [scopeId, id], 0⟩,
    ⟨"GroupAny", 262, valued [scopeId, id], 0⟩,
    ⟨"GroupBroadcast", 263, valued [scopeId, id, id], 0⟩,
    ⟨"GroupNonUniformElect", 333, valued [scopeId], 0⟩,
    ⟨"GroupNonUniformBallotBitCount", 342, valued [scopeId, named .groupOperation, id], 0⟩]
  ++ shaped (valued [scopeId, named .groupOperation, id]) [("GroupIAdd", 264), ("GroupFAdd", 265),
    ("GroupFMin", 266), ("GroupUMin", 267), ("GroupSMin", 268), ("GroupFMax", 269),
    ("GroupUMax", 270), ("GroupSMax", 271)]
  ++ shaped (valued [scopeId, id]) [("GroupNonUniformAll", 334), ("GroupNonUniformAny", 335),
    ("GroupNonUniformAllEqual", 336), ("GroupNonUniformBroadcastFirst", 338),
    ("GroupNonUniformBallot", 339), ("GroupNonUniformInverseBallot", 340),
    ("GroupNonUniformBallotFindLSB", 343), ("GroupNonUniformBallotFindMSB", 344)]
  ++ shaped (valued [scopeId, id, id]) [("GroupNonUniformBroadcast", 337),
    ("GroupNonUniformBallotBitExtract", 341), ("GroupNonUniformShuffle", 345),
    ("GroupNonUniformShuffleXor", 346), ("GroupNonUniformShuffleUp", 347),
    ("GroupNonUniformShuffleDown", 348), ("GroupNonUniformQuadBroadcast", 365),
    ("GroupNonUniformQuadSwap", 366)]
  ++ shaped (valued [scopeId, named .groupOperation, id, optionalId])
    [("GroupNonUniformIAdd", 349), ("GroupNonUniformFAdd", 350), ("GroupNonUniformIMul", 351),
      ("GroupNonUniformFMul", 352), ("GroupNonUniformSMin", 353), ("GroupNonUniformUMin", 354),
      ("GroupNonUniformFMin", 355), ("GroupNonUniformSMax", 356), ("GroupNonUniformUMax", 357),
      ("GroupNonUniformFMax", 358), ("GroupNonUniformBitwiseAnd", 359),
      ("GroupNonUniformBitwiseOr", 360), ("GroupNonUniformBitwiseXor", 361),
      ("GroupNonUniformLogicalAnd", 362), ("GroupNonUniformLogicalOr", 363),
      ("GroupNonUniformLogicalXor", 364)]

def table : List Opcode :=
  bare ++ debugging ++ settings ++ annotations ++ types ++ constants ++ functions ++ memory
    ++ composites ++ unary ++ binary ++ wider ++ images ++ control ++ atomics ++ groups

/-- The instruction of a name in modules of version 1.`minor`. -/
def byName? (minor : Nat) (name : String) : Option Opcode :=
  table.find? fun o => o.name = name && o.since ≤ minor

/-- The instruction of a number in modules of version 1.`minor`. -/
def byNumber? (minor number : Nat) : Option Opcode :=
  table.find? fun o => o.number = number && o.since ≤ minor

/-- Instructions that a specialization constant may apply. -/
def isConstantOperation (o : Opcode) : Bool :=
  [65, 66, 67, 70, 79, 81, 82, 109, 110, 111, 112, 113, 114, 115, 116, 117, 120, 121, 122, 124, 126,
    127, 128, 129, 130, 131, 132, 133, 134, 135, 136, 137, 138, 139, 140, 141, 164, 165, 166, 167,
    168, 169, 170, 171, 172, 173, 174, 175, 176, 177, 178, 179, 194, 195, 196, 197, 198, 199, 200,
    400].contains o.number

end Opcode

end ShaderConvert.Spirv
