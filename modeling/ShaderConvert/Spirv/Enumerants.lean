import ShaderConvert.Features.Capability
import ShaderConvert.Number.Power
import ShaderConvert.Spirv.Operand

/-
The named values of every family, with the operands that some of them bring along.

A value may have several names; the first one is written. `Family.byValue?` and `Family.byName?`
look a value up, `parseMask?` reads names joined by bars and `maskNames` writes them.
-/
namespace ShaderConvert.Spirv

structure Enumerant where
  name : String
  value : Nat
  operands : Pattern := []
deriving Repr, DecidableEq, Inhabited

namespace Family

/-- Names with the values 0, 1, 2, … -/
def counted (names : List String) : List Enumerant :=
  names.zipIdx.map fun (n, i) => ⟨n, i, []⟩

def plain (entries : List (String × Nat)) : List Enumerant :=
  entries.map fun (n, v) => ⟨n, v, []⟩

def withInteger (entries : List (String × Nat)) : List Enumerant :=
  entries.map fun (n, v) => ⟨n, v, [.integer]⟩

def withId (entries : List (String × Nat)) : List Enumerant :=
  entries.map fun (n, v) => ⟨n, v, [.id]⟩

def executionModels : List Enumerant :=
  counted ["Vertex", "TessellationControl", "TessellationEvaluation", "Geometry", "Fragment",
    "GLCompute", "Kernel"]
  ++ plain [("TaskNV", 5267), ("MeshNV", 5268), ("RayGenerationKHR", 5313),
    ("RayGenerationNV", 5313), ("IntersectionKHR", 5314), ("IntersectionNV", 5314),
    ("AnyHitKHR", 5315), ("AnyHitNV", 5315), ("ClosestHitKHR", 5316), ("ClosestHitNV", 5316),
    ("MissKHR", 5317), ("MissNV", 5317), ("CallableKHR", 5318), ("CallableNV", 5318),
    ("TaskEXT", 5364), ("MeshEXT", 5365)]

def executionModes : List Enumerant :=
  plain [("SpacingEqual", 1), ("SpacingFractionalEven", 2), ("SpacingFractionalOdd", 3),
    ("VertexOrderCw", 4), ("VertexOrderCcw", 5), ("PixelCenterInteger", 6),
    ("OriginUpperLeft", 7), ("OriginLowerLeft", 8), ("EarlyFragmentTests", 9), ("PointMode", 10),
    ("Xfb", 11), ("DepthReplacing", 12), ("DepthGreater", 14), ("DepthLess", 15),
    ("DepthUnchanged", 16), ("InputPoints", 19), ("InputLines", 20), ("InputLinesAdjacency", 21),
    ("Triangles", 22), ("InputTrianglesAdjacency", 23), ("Quads", 24), ("Isolines", 25),
    ("OutputPoints", 27), ("OutputLineStrip", 28), ("OutputTriangleStrip", 29),
    ("ContractionOff", 31), ("Initializer", 33), ("Finalizer", 34),
    ("NonCoherentColorAttachmentReadEXT", 4169), ("NonCoherentDepthAttachmentReadEXT", 4170),
    ("NonCoherentStencilAttachmentReadEXT", 4171), ("SubgroupUniformControlFlowKHR", 4421),
    ("PostDepthCoverage", 4446), ("EarlyAndLateFragmentTestsAMD", 5017),
    ("StencilRefReplacingEXT", 5027), ("StencilRefUnchangedFrontAMD", 5079),
    ("StencilRefGreaterFrontAMD", 5080), ("StencilRefLessFrontAMD", 5081),
    ("StencilRefUnchangedBackAMD", 5082), ("StencilRefGreaterBackAMD", 5083),
    ("StencilRefLessBackAMD", 5084), ("OutputLinesEXT", 5269), ("OutputLinesNV", 5269),
    ("DerivativeGroupQuadsNV", 5289), ("DerivativeGroupLinearNV", 5290),
    ("OutputTrianglesEXT", 5298), ("OutputTrianglesNV", 5298),
    ("PixelInterlockOrderedEXT", 5366), ("PixelInterlockUnorderedEXT", 5367),
    ("SampleInterlockOrderedEXT", 5368), ("SampleInterlockUnorderedEXT", 5369),
    ("ShadingRateInterlockOrderedEXT", 5370), ("ShadingRateInterlockUnorderedEXT", 5371)]
  ++ withInteger [("Invocations", 0), ("OutputVertices", 26), ("VecTypeHint", 30),
    ("SubgroupSize", 35), ("SubgroupsPerWorkgroup", 36), ("DenormPreserve", 4459),
    ("DenormFlushToZero", 4460), ("SignedZeroInfNanPreserve", 4461), ("RoundingModeRTE", 4462),
    ("RoundingModeRTZ", 4463), ("OutputPrimitivesEXT", 5270), ("OutputPrimitivesNV", 5270)]
  ++ withId [("SubgroupsPerWorkgroupId", 37)]
  ++ [⟨"LocalSize", 17, [.integer, .integer, .integer]⟩,
    ⟨"LocalSizeHint", 18, [.integer, .integer, .integer]⟩, ⟨"LocalSizeId", 38, [.id, .id, .id]⟩,
    ⟨"LocalSizeHintId", 39, [.id, .id, .id]⟩]

def storageClasses : List Enumerant :=
  counted ["UniformConstant", "Input", "Uniform", "Output", "Workgroup", "CrossWorkgroup",
    "Private", "Function", "Generic", "PushConstant", "AtomicCounter", "Image", "StorageBuffer"]
  ++ plain [("TileImageEXT", 4172), ("CallableDataKHR", 5328), ("CallableDataNV", 5328),
    ("IncomingCallableDataKHR", 5329), ("IncomingCallableDataNV", 5329), ("RayPayloadKHR", 5338),
    ("RayPayloadNV", 5338), ("HitAttributeKHR", 5339), ("HitAttributeNV", 5339),
    ("IncomingRayPayloadKHR", 5342), ("IncomingRayPayloadNV", 5342),
    ("ShaderRecordBufferKHR", 5343), ("ShaderRecordBufferNV", 5343),
    ("PhysicalStorageBuffer", 5349), ("PhysicalStorageBufferEXT", 5349),
    ("HitObjectAttributeNV", 5385), ("TaskPayloadWorkgroupEXT", 5402),
    ("CodeSectionINTEL", 5605), ("DeviceOnlyINTEL", 5936), ("HostOnlyINTEL", 5937)]

def imageFormats : List Enumerant :=
  counted ["Unknown", "Rgba32f", "Rgba16f", "R32f", "Rgba8", "Rgba8Snorm", "Rg32f", "Rg16f",
    "R11fG11fB10f", "R16f", "Rgba16", "Rgb10A2", "Rg16", "Rg8", "R16", "R8", "Rgba16Snorm",
    "Rg16Snorm", "Rg8Snorm", "R16Snorm", "R8Snorm", "Rgba32i", "Rgba16i", "Rgba8i", "R32i",
    "Rg32i", "Rg16i", "Rg8i", "R16i", "R8i", "Rgba32ui", "Rgba16ui", "Rgba8ui", "R32ui",
    "Rgb10a2ui", "Rg32ui", "Rg16ui", "Rg8ui", "R16ui", "R8ui", "R64ui", "R64i"]

def decorations : List Enumerant :=
  plain [("RelaxedPrecision", 0), ("Block", 2), ("BufferBlock", 3), ("RowMajor", 4),
    ("ColMajor", 5), ("GLSLShared", 8), ("GLSLPacked", 9), ("CPacked", 10),
    ("NoPerspective", 13), ("Flat", 14), ("Patch", 15), ("Centroid", 16), ("Sample", 17),
    ("Invariant", 18), ("Restrict", 19), ("Aliased", 20), ("Volatile", 21), ("Constant", 22),
    ("Coherent", 23), ("NonWritable", 24), ("NonReadable", 25), ("Uniform", 26),
    ("SaturatedConversion", 28), ("NoContraction", 42), ("WeightTextureQCOM", 4487),
    ("BlockMatchTextureQCOM", 4488), ("NoSignedWrap", 4469), ("NoUnsignedWrap", 4470),
    ("ExplicitInterpAMD", 4999), ("OverrideCoverageNV", 5248), ("PassthroughNV", 5250),
    ("ViewportRelativeNV", 5252), ("PerPrimitiveEXT", 5271), ("PerPrimitiveNV", 5271),
    ("PerViewNV", 5272), ("PerTaskNV", 5273), ("PerVertexKHR", 5285), ("PerVertexNV", 5285),
    ("NonUniform", 5300), ("NonUniformEXT", 5300), ("RestrictPointer", 5355),
    ("RestrictPointerEXT", 5355), ("AliasedPointer", 5356), ("AliasedPointerEXT", 5356)]
  ++ withInteger [("SpecId", 1), ("ArrayStride", 6), ("MatrixStride", 7), ("Stream", 29),
    ("Location", 30), ("Component", 31), ("Index", 32), ("Binding", 33), ("DescriptorSet", 34),
    ("Offset", 35), ("XfbBuffer", 36), ("XfbStride", 37), ("InputAttachmentIndex", 43),
    ("Alignment", 44), ("MaxByteOffset", 45), ("SecondaryViewportRelativeNV", 5256)]
  ++ withId [("AlignmentId", 46), ("MaxByteOffsetId", 47), ("CounterBuffer", 5634),
    ("HlslCounterBufferGOOGLE", 5634)]
  ++ [⟨"BuiltIn", 11, [.named .builtIn]⟩, ⟨"UniformId", 27, [.scopeId]⟩,
    ⟨"FuncParamAttr", 38, [.named .parameterAttribute]⟩,
    ⟨"FPRoundingMode", 39, [.named .roundingMode]⟩,
    ⟨"FPFastMathMode", 40, [.named .fastMathMode]⟩,
    ⟨"LinkageAttributes", 41, [.string, .named .linkageType]⟩,
    ⟨"UserSemantic", 5635, [.string]⟩, ⟨"HlslSemanticGOOGLE", 5635, [.string]⟩,
    ⟨"UserTypeGOOGLE", 5636, [.string]⟩]

def builtIns : List Enumerant :=
  plain [("Position", 0), ("PointSize", 1), ("ClipDistance", 3), ("CullDistance", 4),
    ("VertexId", 5), ("InstanceId", 6), ("PrimitiveId", 7), ("InvocationId", 8), ("Layer", 9),
    ("ViewportIndex", 10), ("TessLevelOuter", 11), ("TessLevelInner", 12), ("TessCoord", 13),
    ("PatchVertices", 14), ("FragCoord", 15), ("PointCoord", 16), ("FrontFacing", 17),
    ("SampleId", 18), ("SamplePosition", 19), ("SampleMask", 20), ("FragDepth", 22),
    ("HelperInvocation", 23), ("NumWorkgroups", 24), ("WorkgroupSize", 25), ("WorkgroupId", 26),
    ("LocalInvocationId", 27), ("GlobalInvocationId", 28), ("LocalInvocationIndex", 29),
    ("WorkDim", 30), ("GlobalSize", 31), ("EnqueuedWorkgroupSize", 32), ("GlobalOffset", 33),
    ("GlobalLinearId", 34), ("SubgroupSize", 36), ("SubgroupMaxSize", 37), ("NumSubgroups", 38),
    ("NumEnqueuedSubgroups", 39), ("SubgroupId", 40), ("SubgroupLocalInvocationId", 41),
    ("VertexIndex", 42), ("InstanceIndex", 43), ("CoreIDARM", 4160), ("CoreCountARM", 4161),
    ("CoreMaxIDARM", 4162), ("WarpIDARM", 4163), ("WarpMaxIDARM", 4164),
    ("SubgroupEqMask", 4416), ("SubgroupEqMaskKHR", 4416), ("SubgroupGeMask", 4417),
    ("SubgroupGeMaskKHR", 4417), ("SubgroupGtMask", 4418), ("SubgroupGtMaskKHR", 4418),
    ("SubgroupLeMask", 4419), ("SubgroupLeMaskKHR", 4419), ("SubgroupLtMask", 4420),
    ("SubgroupLtMaskKHR", 4420), ("BaseVertex", 4424), ("BaseInstance", 4425),
    ("DrawIndex", 4426), ("PrimitiveShadingRateKHR", 4432), ("DeviceIndex", 4438),
    ("ViewIndex", 4440), ("ShadingRateKHR", 4444), ("BaryCoordNoPerspAMD", 4992),
    ("BaryCoordNoPerspCentroidAMD", 4993), ("BaryCoordNoPerspSampleAMD", 4994),
    ("BaryCoordSmoothAMD", 4995), ("BaryCoordSmoothCentroidAMD", 4996),
    ("BaryCoordSmoothSampleAMD", 4997), ("BaryCoordPullModelAMD", 4998),
    ("FragStencilRefEXT", 5014), ("ViewportMaskNV", 5253), ("SecondaryPositionNV", 5257),
    ("SecondaryViewportMaskNV", 5258), ("PositionPerViewNV", 5261),
    ("ViewportMaskPerViewNV", 5262), ("FullyCoveredEXT", 5264), ("TaskCountNV", 5274),
    ("PrimitiveCountNV", 5275), ("PrimitiveIndicesNV", 5276), ("ClipDistancePerViewNV", 5277),
    ("CullDistancePerViewNV", 5278), ("LayerPerViewNV", 5279), ("MeshViewCountNV", 5280),
    ("MeshViewIndicesNV", 5281), ("BaryCoordKHR", 5286), ("BaryCoordNV", 5286),
    ("BaryCoordNoPerspKHR", 5287), ("BaryCoordNoPerspNV", 5287), ("FragSizeEXT", 5292),
    ("FragInvocationCountEXT", 5293), ("PrimitivePointIndicesEXT", 5294),
    ("PrimitiveLineIndicesEXT", 5295), ("PrimitiveTriangleIndicesEXT", 5296),
    ("CullPrimitiveEXT", 5299), ("LaunchIdKHR", 5319), ("LaunchSizeKHR", 5320),
    ("WorldRayOriginKHR", 5321), ("WorldRayDirectionKHR", 5322), ("ObjectRayOriginKHR", 5323),
    ("ObjectRayDirectionKHR", 5324), ("RayTminKHR", 5325), ("RayTmaxKHR", 5326),
    ("InstanceCustomIndexKHR", 5327), ("ObjectToWorldKHR", 5330), ("WorldToObjectKHR", 5331),
    ("HitTNV", 5332), ("HitKindKHR", 5333), ("CurrentRayTimeNV", 5334),
    ("HitTriangleVertexPositionsKHR", 5335), ("IncomingRayFlagsKHR", 5351),
    ("RayGeometryIndexKHR", 5352), ("WarpsPerSMNV", 5374), ("SMCountNV", 5375),
    ("WarpIDNV", 5376), ("SMIDNV", 5377), ("CullMaskKHR", 6021)]

def imageOperandBits : List Enumerant :=
  plain [("None", 0), ("NonPrivateTexel", 0x400), ("NonPrivateTexelKHR", 0x400),
    ("VolatileTexel", 0x800), ("VolatileTexelKHR", 0x800), ("SignExtend", 0x1000),
    ("ZeroExtend", 0x2000), ("Nontemporal", 0x4000)]
  ++ withId [("Bias", 0x1), ("Lod", 0x2), ("ConstOffset", 0x8), ("Offset", 0x10),
    ("ConstOffsets", 0x20), ("Sample", 0x40), ("MinLod", 0x80), ("Offsets", 0x10000)]
  ++ [⟨"Grad", 0x4, [.id, .id]⟩, ⟨"MakeTexelAvailable", 0x100, [.scopeId]⟩,
    ⟨"MakeTexelAvailableKHR", 0x100, [.scopeId]⟩, ⟨"MakeTexelVisible", 0x200, [.scopeId]⟩,
    ⟨"MakeTexelVisibleKHR", 0x200, [.scopeId]⟩]

def loopControlBits : List Enumerant :=
  plain [("None", 0), ("Unroll", 0x1), ("DontUnroll", 0x2), ("DependencyInfinite", 0x4)]
  ++ withInteger [("DependencyLength", 0x8), ("MinIterations", 0x10), ("MaxIterations", 0x20),
    ("IterationMultiple", 0x40), ("PeelCount", 0x80), ("PartialCount", 0x100)]

def memoryAccessBits : List Enumerant :=
  plain [("None", 0), ("Volatile", 0x1), ("Nontemporal", 0x4), ("NonPrivatePointer", 0x20),
    ("NonPrivatePointerKHR", 0x20)]
  ++ withInteger [("Aligned", 0x2)]
  ++ [⟨"MakePointerAvailable", 0x8, [.scopeId]⟩, ⟨"MakePointerAvailableKHR", 0x8, [.scopeId]⟩,
    ⟨"MakePointerVisible", 0x10, [.scopeId]⟩, ⟨"MakePointerVisibleKHR", 0x10, [.scopeId]⟩]
  ++ withId [("AliasScopeINTELMask", 0x10000), ("NoAliasINTELMask", 0x20000)]

def entries : Family → List Enumerant
  | sourceLanguage =>
    counted ["Unknown", "ESSL", "GLSL", "OpenCL_C", "OpenCL_CPP", "HLSL", "CPP_for_OpenCL",
      "SYCL", "HERO_C", "NZSL", "WGSL"]
  | executionModel => executionModels
  | addressingModel =>
    plain [("Logical", 0), ("Physical32", 1), ("Physical64", 2), ("PhysicalStorageBuffer64", 5348),
      ("PhysicalStorageBuffer64EXT", 5348)]
  | memoryModel =>
    plain [("Simple", 0), ("GLSL450", 1), ("OpenCL", 2), ("Vulkan", 3), ("VulkanKHR", 3)]
  | executionMode => executionModes
  | storageClass => storageClasses
  | dimensionality =>
    counted ["1D", "2D", "3D", "Cube", "Rect", "Buffer", "SubpassData"]
      ++ plain [("TileImageDataEXT", 4173)]
  | samplerAddressingMode =>
    counted ["None", "ClampToEdge", "Clamp", "Repeat", "RepeatMirrored"]
  | samplerFilterMode => counted ["Nearest", "Linear"]
  | imageFormat => imageFormats
  | roundingMode => counted ["RTE", "RTZ", "RTP", "RTN"]
  | linkageType => counted ["Export", "Import", "LinkOnceODR"]
  | accessQualifier => counted ["ReadOnly", "WriteOnly", "ReadWrite"]
  | parameterAttribute =>
    counted ["Zext", "Sext", "ByVal", "Sret", "NoAlias", "NoCapture", "NoWrite", "NoReadWrite"]
  | decoration => decorations
  | builtIn => builtIns
  | groupOperation =>
    plain [("Reduce", 0), ("InclusiveScan", 1), ("ExclusiveScan", 2), ("ClusteredReduce", 3),
      ("PartitionedReduceNV", 6), ("PartitionedInclusiveScanNV", 7),
      ("PartitionedExclusiveScanNV", 8)]
  | kernelEnqueueFlags => counted ["NoWait", "WaitKernel", "WaitWorkGroup"]
  | capability => Capability.names.map fun (v, n) => ⟨n, v, []⟩
  | fastMathMode =>
    plain [("None", 0), ("NotNaN", 0x1), ("NotInf", 0x2), ("NSZ", 0x4), ("AllowRecip", 0x8),
      ("Fast", 0x10)]
  | imageOperands => imageOperandBits
  | selectionControl => plain [("None", 0), ("Flatten", 0x1), ("DontFlatten", 0x2)]
  | loopControl => loopControlBits
  | functionControl =>
    plain [("None", 0), ("Inline", 0x1), ("DontInline", 0x2), ("Pure", 0x4), ("Const", 0x8),
      ("OptNoneINTEL", 0x10000)]
  | memoryAccess => memoryAccessBits
  | kernelProfilingInfo => plain [("None", 0), ("CmdExecTime", 0x1)]

def byValue? (f : Family) (value : Nat) : Option Enumerant :=
  f.entries.find? (·.value = value)

def byName? (f : Family) (name : String) : Option Enumerant :=
  f.entries.find? (·.name = name)

/-- The bits of a word that are set, lowest first. -/
def bitsOf (value : Nat) : List Nat :=
  ((List.range 32).map (twoTo ·)).filter fun b => value / b % 2 = 1

/-- The operands that the bits of a mask bring along, lowest bit first. -/
def maskOperands (f : Family) (value : Nat) : Pattern :=
  (bitsOf value).flatMap fun b => ((f.byValue? b).map (·.operands)).getD []

/-- The first bit from the top that has no name. -/
def unknownBit? (f : Family) (value : Nat) : Option Nat :=
  (bitsOf value).reverse.find? fun b => (f.byValue? b).isNone

/-- The names of the bits of a mask joined by bars, or the name of zero. -/
def maskNames (f : Family) (value : Nat) : String :=
  if value = 0 then ((f.byValue? 0).map (·.name)).getD ""
  else "|".intercalate ((bitsOf value).map fun b => ((f.byValue? b).map (·.name)).getD "")

/-- The mask of names joined by bars. -/
def parseMask? (f : Family) (text : String) : Option Nat :=
  ((text.splitOn "|").mapM f.byName?).map fun es =>
    es.foldl (fun m e => m ||| e.value) 0

end Family

end ShaderConvert.Spirv
