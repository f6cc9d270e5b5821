/-
Names of the capabilities that a binary module may declare.

Different capabilities have different names (`name_inj`), and one that the table does not have is shown
by its number (`name_of_unknown`).
-/
namespace ShaderConvert.Capability

/-- Every capability with a name of its own. -/
def names : List (Nat × String) :=
  [(0, "Matrix"), (1, "Shader"), (2, "Geometry"), (3, "Tessellation"), (4, "Addresses"),
   (5, "Linkage"), (6, "Kernel"), (7, "Vector16"), (8, "Float16Buffer"), (9, "Float16"),
   (10, "Float64"), (11, "Int64"), (12, "Int64Atomics"), (13, "ImageBasic"),
   (14, "ImageReadWrite"), (15, "ImageMipmap"), (17, "Pipes"), (18, "Groups"),
   (19, "DeviceEnqueue"), (20, "LiteralSampler"), (21, "AtomicStorage"), (22, "Int16"),
   (23, "TessellationPointSize"), (24, "GeometryPointSize"), (25, "ImageGatherExtended"),
   (27, "StorageImageMultisample"), (28, "UniformBufferArrayDynamicIndexing"),
   (29, "SampledImageArrayDynamicIndexing"), (30, "StorageBufferArrayDynamicIndexing"),
   (31, "StorageImageArrayDynamicIndexing"), (32, "ClipDistance"), (33, "CullDistance"),
   (34, "ImageCubeArray"), (35, "SampleRateShading"), (36, "ImageRect"), (37, "SampledRect"),
   (38, "GenericPointer"), (39, "Int8"), (40, "InputAttachment"), (41, "SparseResidency"),
   (42, "MinLod"), (43, "Sampled1D"), (44, "Image1D"), (45, "SampledCubeArray"),
   (46, "SampledBuffer"), (47, "ImageBuffer"), (48, "ImageMSArray"),
   (49, "StorageImageExtendedFormats"), (50, "ImageQuery"), (51, "DerivativeControl"),
   (52, "InterpolationFunction"), (53, "TransformFeedback"), (54, "GeometryStreams"),
   (55, "StorageImageReadWithoutFormat"), (56, "StorageImageWriteWithoutFormat"),
   (57, "MultiViewport"), (58, "SubgroupDispatch"), (59, "NamedBarrier"), (60, "PipeStorage"),
   (61, "GroupNonUniform"), (62, "GroupNonUniformVote"), (63, "GroupNonUniformArithmetic"),
   (64, "GroupNonUniformBallot"), (65, "GroupNonUniformShuffle"),
   (66, "GroupNonUniformShuffleRelative"), (67, "GroupNonUniformClustered"),
   (68, "GroupNonUniformQuad"), (69, "ShaderLayer"), (70, "ShaderViewportIndex"),
   (71, "UniformDecoration"), (4165, "CoreBuiltinsARM"), (4166, "TileImageColorReadAccessEXT"),
   (4167, "TileImageDepthReadAccessEXT"), (4168, "TileImageStencilReadAccessEXT"),
   (4422, "FragmentShadingRateKHR"), (4423, "SubgroupBallotKHR"), (4427, "DrawParameters"),
   (4428, "WorkgroupMemoryExplicitLayoutKHR"),
   (4429, "WorkgroupMemoryExplicitLayout8BitAccessKHR"),
   (4430, "WorkgroupMemoryExplicitLayout16BitAccessKHR"), (4431, "SubgroupVoteKHR"),
   (4433, "StorageBuffer16BitAccess"), (4434, "UniformAndStorageBuffer16BitAccess"),
   (4435, "StoragePushConstant16"), (4436, "StorageInputOutput16"), (4437, "DeviceGroup"),
   (4439, "MultiView"), (4441, "VariablePointersStorageBuffer"), (4442, "VariablePointers"),
   (4445, "AtomicStorageOps"), (4447, "SampleMaskPostDepthCoverage"),
   (4448, "StorageBuffer8BitAccess"), (4449, "UniformAndStorageBuffer8BitAccess"),
   (4450, "StoragePushConstant8"), (4464, "DenormPreserve"), (4465, "DenormFlushToZero"),
   (4466, "SignedZeroInfNanPreserve"), (4467, "RoundingModeRTE"), (4468, "RoundingModeRTZ"),
   (4471, "RayQueryProvisionalKHR"), (4472, "RayQueryKHR"),
   (4478, "RayTraversalPrimitiveCullingKHR"), (4479, "RayTracingKHR"),
   (4484, "TextureSampleWeightedQCOM"), (4485, "TextureBoxFilterQCOM"),
   (4486, "TextureBlockMatchQCOM"), (5008, "Float16ImageAMD"), (5009, "ImageGatherBiasLodAMD"),
   (5010, "FragmentMaskAMD"), (5013, "StencilExportEXT"), (5015, "ImageReadWriteLodAMD"),
   (5016, "Int64ImageEXT"), (5055, "ShaderClockKHR"), (5067, "ShaderEnqueueAMDX"),
   (5249, "SampleMaskOverrideCoverageNV"), (5251, "GeometryShaderPassthroughNV"),
   (5254, "ShaderViewportIndexLayerEXT"), (5255, "ShaderViewportMaskNV"),
   (5259, "ShaderStereoViewNV"), (5260, "PerViewAttributesNV"),
   (5265, "FragmentFullyCoveredEXT"), (5266, "MeshShadingNV"), (5282, "ImageFootprintNV"),
   (5283, "MeshShadingEXT"), (5284, "FragmentBarycentricKHR"),
   (5288, "ComputeDerivativeGroupQuadsNV"), (5291, "FragmentDensityEXT"),
   (5297, "GroupNonUniformPartitionedNV"), (5301, "ShaderNonUniform"),
   (5302, "RuntimeDescriptorArray"), (5303, "InputAttachmentArrayDynamicIndexing"),
   (5304, "UniformTexelBufferArrayDynamicIndexing"),
   (5305, "StorageTexelBufferArrayDynamicIndexing"),
   (5306, "UniformBufferArrayNonUniformIndexing"), (5307, "SampledImageArrayNonUniformIndexing"),
   (5308, "StorageBufferArrayNonUniformIndexing"), (5309, "StorageImageArrayNonUniformIndexing"),
   (5310, "InputAttachmentArrayNonUniformIndexing"),
   (5311, "UniformTexelBufferArrayNonUniformIndexing"),
   (5312, "StorageTexelBufferArrayNonUniformIndexing"), (5336, "RayTracingPositionFetchKHR"),
   (5340, "RayTracingNV"), (5341, "RayTracingMotionBlurNV"), (5345, "VulkanMemoryModel"),
   (5346, "VulkanMemoryModelDeviceScope"), (5347, "PhysicalStorageBufferAddresses"),
   (5350, "ComputeDerivativeGroupLinearNV"), (5353, "RayTracingProvisionalKHR"),
   (5357, "CooperativeMatrixNV"), (5363, "FragmentShaderSampleInterlockEXT"),
   (5372, "FragmentShaderShadingRateInterlockEXT"), (5373, "ShaderSMBuiltinsNV"),
   (5378, "FragmentShaderPixelInterlockEXT"), (5379, "DemoteToHelperInvocation"),
   (5380, "DisplacementMicromapNV"), (5381, "RayTracingOpacityMicromapEXT"),
   (5383, "ShaderInvocationReorderNV"), (5390, "BindlessTextureNV"),
   (5391, "RayQueryPositionFetchKHR"), (5409, "RayTracingDisplacementMicromapNV"),
   (5568, "SubgroupShuffleINTEL"), (5569, "SubgroupBufferBlockIOINTEL"),
   (5570, "SubgroupImageBlockIOINTEL"), (5579, "SubgroupImageMediaBlockIOINTEL"),
   (5582, "RoundToInfinityINTEL"), (5583, "FloatingPointModeINTEL"),
   (5584, "IntegerFunctions2INTEL"), (5603, "FunctionPointersINTEL"),
   (5604, "IndirectReferencesINTEL"), (5606, "AsmINTEL"), (5612, "AtomicFloat32MinMaxEXT"),
   (5613, "AtomicFloat64MinMaxEXT"), (5616, "AtomicFloat16MinMaxEXT"),
   (5617, "VectorComputeINTEL"), (5619, "VectorAnyINTEL"), (5629, "ExpectAssumeKHR"),
   (5696, "SubgroupAvcMotionEstimationINTEL"), (5697, "SubgroupAvcMotionEstimationIntraINTEL"),
   (5698, "SubgroupAvcMotionEstimationChromaINTEL"), (5817, "VariableLengthArrayINTEL"),
   (5821, "FunctionFloatControlINTEL"), (5824, "FPGAMemoryAttributesINTEL"),
   (5837, "FPFastMathModeINTEL"), (5844, "ArbitraryPrecisionIntegersINTEL"),
   (5845, "ArbitraryPrecisionFloatingPointINTEL"), (5886, "UnstructuredLoopControlsINTEL"),
   (5888, "FPGALoopControlsINTEL"), (5892, "KernelAttributesINTEL"),
   (5897, "FPGAKernelAttributesINTEL"), (5898, "FPGAMemoryAccessesINTEL"),
   (5904, "FPGAClusterAttributesINTEL"), (5906, "LoopFuseINTEL"), (5908, "FPGADSPControlINTEL"),
   (5910, "MemoryAccessAliasingINTEL"), (5916, "FPGAInvocationPipeliningAttributesINTEL"),
   (5920, "FPGABufferLocationINTEL"), (5922, "ArbitraryPrecisionFixedPointINTEL"),
   (5935, "USMStorageClassesINTEL"), (5939, "RuntimeAlignedAttributeINTEL"),
   (5943, "IOPipesINTEL"), (5945, "BlockingPipesINTEL"), (5948, "FPGARegINTEL"),
   (6016, "DotProductInputAll"), (6017, "DotProductInput4x8Bit"),
   (6018, "DotProductInput4x8BitPacked"), (6019, "DotProduct"), (6020, "RayCullMaskKHR"),
   (6022, "CooperativeMatrixKHR"), (6025, "BitInstructions"), (6026, "GroupNonUniformRotateKHR"),
   (6033, "AtomicFloat32AddEXT"), (6034, "AtomicFloat64AddEXT"),
   (6089, "LongConstantCompositeINTEL"), (6094, "OptNoneINTEL"), (6095, "AtomicFloat16AddEXT"),
   (6114, "DebugInfoModuleINTEL"), (6115, "BFloat16ConversionINTEL"),
   (6141, "SplitBarrierINTEL"), (6146, "GlobalVariableFPGADecorationsINTEL"),
   (6161, "FPGAKernelAttributesv2INTEL"), (6167, "GlobalVariableHostAccessINTEL"),
   (6169, "FPMaxErrorINTEL"), (6171, "FPGALatencyControlINTEL"),
   (6174, "FPGAArgumentInterfacesINTEL"), (6400, "GroupUniformArithmeticKHR"),
   (6441, "CacheControlsINTEL")]

/-- The name of a capability, if it has one. -/
def name? (value : Nat) : Option String := (names.find? (·.1 = value)).map (·.2)

/-- The name of a capability; one without a name of its own is shown by its number. -/
def name (value : Nat) : String := (name? value).getD s!"Capability({value})"

/-! ### Names tell capabilities apart -/

/-- The bytes of a text as one number.  Texts of different numbers are different, and it takes less to
compare the numbers. -/
def bytesNumber (text : String) : Nat :=
  text.toByteArray.data.toList.foldl (fun k b => 256 * k + b.toNat) 0

theorem bytesNumber_append (s t : String) :
    bytesNumber (s ++ t) =
      t.toByteArray.data.toList.foldl (fun k b => 256 * k + b.toNat) (bytesNumber s) := by
  rw [bytesNumber, bytesNumber, String.toByteArray_append, ByteArray.data_append,
    Array.toList_append, List.foldl_append]

/-- The value of the first capability whose name has this number. -/
def valueOf? (number : Nat) : Option Nat :=
  (names.find? fun p => Nat.beq (bytesNumber p.2) number).map (·.1)

/-- No name stands for two values, and none ends with a bracket. -/
theorem valueOf?_of_mem : ∀ p ∈ names,
    valueOf? (bytesNumber p.2) = some p.1 ∧ bytesNumber p.2 % 256 ≠ ')'.toNat := by
  decide +kernel

/-- A capability without a name of its own is shown by its number. -/
theorem name_of_unknown {value : Nat} (h : ∀ p ∈ names, p.1 ≠ value) :
    name value = s!"Capability({value})" := by
  have hnone : names.find? (·.1 = value) = none := by
    rw [List.find?_eq_none]
    intro p hp heq
    exact h p hp (of_decide_eq_true heq)
  rw [name, name?, hnone]
  rfl

theorem bytesNumber_numbered (value : Nat) :
    bytesNumber s!"Capability({value})" % 256 = ')'.toNat := by
  have hbracket : (toString ")").toByteArray.data.toList = [41] := by decide
  rw [bytesNumber_append, hbracket, List.foldl_cons, List.foldl_nil, Nat.mul_add_mod]
  rfl

theorem numbered_inj {a b : Nat} (h : s!"Capability({a})" = s!"Capability({b})") : a = b := by
  have hrepr : a.repr = b.repr :=
    (String.append_right_inj _).mp ((String.append_left_inj _).mp h)
  rw [Nat.repr_eq_ofList_toDigits, Nat.repr_eq_ofList_toDigits, String.ofList_inj] at hrepr
  have hdigits (n : Nat) : Nat.ofDigitChars 10 (Nat.toDigits 10 n) 0 = n :=
    Nat.ofDigitChars_toDigits (by decide) (by decide)
  rw [← hdigits a, hrepr, hdigits b]

/-- A name is that of one known value, or shows the number. -/
theorem known_or_numbered (value : Nat) :
    (valueOf? (bytesNumber (name value)) = some value ∧
      bytesNumber (name value) % 256 ≠ ')'.toNat) ∨
    name value = s!"Capability({value})" := by
  cases h : names.find? (·.1 = value) with
  | some p =>
    have hvalue := List.find?_some h
    rw [decide_eq_true_eq] at hvalue
    have hname : name value = p.2 := by rw [name, name?, h]; rfl
    rw [hname, ← hvalue]
    exact .inl (valueOf?_of_mem p (List.mem_of_find?_eq_some h))
  | none =>
    refine .inr (name_of_unknown fun p hp hvalue => ?_)
    exact List.find?_eq_none.mp h p hp (decide_eq_true hvalue)

/-- **Different capabilities have different names.** -/
theorem name_inj {a b : Nat} : name a = name b ↔ a = b := by
  refine ⟨fun h => ?_, fun h => h ▸ rfl⟩
  rcases known_or_numbered a with ⟨ha, hna⟩ | ha <;>
    rcases known_or_numbered b with ⟨hb, hnb⟩ | hb
  · rw [h, hb] at ha
    exact (Option.some.inj ha).symm
  · -- only a name that shows the number ends with a bracket
    rw [h, hb] at hna
    exact absurd (bytesNumber_numbered b) hna
  · rw [← h, ha] at hnb
    exact absurd (bytesNumber_numbered a) hnb
  · rw [ha, hb] at h
    exact numbered_inj h

end ShaderConvert.Capability
