import ShaderConvert.Words

/-
The numbers of the instructions that modules are written with and read from, and of the named values
in them.
-/
namespace ShaderConvert.Spirv

namespace Code

@[match_pattern] abbrev undef : Nat := 1
@[match_pattern] abbrev source : Nat := 3
@[match_pattern] abbrev sourceExtension : Nat := 4
@[match_pattern] abbrev name : Nat := 5
@[match_pattern] abbrev memberName : Nat := 6
@[match_pattern] abbrev string : Nat := 7
@[match_pattern] abbrev line : Nat := 8
@[match_pattern] abbrev extension : Nat := 10
@[match_pattern] abbrev extInstImport : Nat := 11
@[match_pattern] abbrev extInst : Nat := 12
@[match_pattern] abbrev memoryModel : Nat := 14
@[match_pattern] abbrev entryPoint : Nat := 15
@[match_pattern] abbrev executionMode : Nat := 16
@[match_pattern] abbrev capability : Nat := 17
@[match_pattern] abbrev typeVoid : Nat := 19
@[match_pattern] abbrev typeBool : Nat := 20
@[match_pattern] abbrev typeInt : Nat := 21
@[match_pattern] abbrev typeFloat : Nat := 22
@[match_pattern] abbrev typeVector : Nat := 23
@[match_pattern] abbrev typeMatrix : Nat := 24
@[match_pattern] abbrev typeImage : Nat := 25
@[match_pattern] abbrev typeSampler : Nat := 26
@[match_pattern] abbrev typeSampledImage : Nat := 27
@[match_pattern] abbrev typeArray : Nat := 28
@[match_pattern] abbrev typeRuntimeArray : Nat := 29
@[match_pattern] abbrev typeStruct : Nat := 30
@[match_pattern] abbrev typePointer : Nat := 32
@[match_pattern] abbrev typeFunction : Nat := 33
@[match_pattern] abbrev constantTrue : Nat := 41
@[match_pattern] abbrev constantFalse : Nat := 42
@[match_pattern] abbrev constant : Nat := 43
@[match_pattern] abbrev constantComposite : Nat := 44
@[match_pattern] abbrev constantNull : Nat := 46
@[match_pattern] abbrev specConstantTrue : Nat := 48
@[match_pattern] abbrev specConstantFalse : Nat := 49
@[match_pattern] abbrev specConstant : Nat := 50
@[match_pattern] abbrev function : Nat := 54
@[match_pattern] abbrev functionParameter : Nat := 55
@[match_pattern] abbrev functionEnd : Nat := 56
@[match_pattern] abbrev functionCall : Nat := 57
@[match_pattern] abbrev variable_ : Nat := 59
@[match_pattern] abbrev load : Nat := 61
@[match_pattern] abbrev store : Nat := 62
@[match_pattern] abbrev accessChain : Nat := 65
@[match_pattern] abbrev inBoundsAccessChain : Nat := 66
@[match_pattern] abbrev arrayLength : Nat := 68
@[match_pattern] abbrev decorate : Nat := 71
@[match_pattern] abbrev memberDecorate : Nat := 72
@[match_pattern] abbrev vectorExtractDynamic : Nat := 77
@[match_pattern] abbrev vectorShuffle : Nat := 79
@[match_pattern] abbrev compositeConstruct : Nat := 80
@[match_pattern] abbrev compositeExtract : Nat := 81
@[match_pattern] abbrev copyObject : Nat := 83
@[match_pattern] abbrev transpose : Nat := 84
@[match_pattern] abbrev sampledImage : Nat := 86
@[match_pattern] abbrev imageSampleImplicitLod : Nat := 87
@[match_pattern] abbrev imageSampleExplicitLod : Nat := 88
@[match_pattern] abbrev imageSampleDrefImplicitLod : Nat := 89
@[match_pattern] abbrev imageSampleDrefExplicitLod : Nat := 90
@[match_pattern] abbrev convertFToU : Nat := 109
@[match_pattern] abbrev convertFToS : Nat := 110
@[match_pattern] abbrev convertSToF : Nat := 111
@[match_pattern] abbrev convertUToF : Nat := 112
@[match_pattern] abbrev uConvert : Nat := 113
@[match_pattern] abbrev sConvert : Nat := 114
@[match_pattern] abbrev fConvert : Nat := 115
@[match_pattern] abbrev bitcast : Nat := 124
@[match_pattern] abbrev sNegate : Nat := 126
@[match_pattern] abbrev fNegate : Nat := 127
@[match_pattern] abbrev iAdd : Nat := 128
@[match_pattern] abbrev fAdd : Nat := 129
@[match_pattern] abbrev iSub : Nat := 130
@[match_pattern] abbrev fSub : Nat := 131
@[match_pattern] abbrev iMul : Nat := 132
@[match_pattern] abbrev fMul : Nat := 133
@[match_pattern] abbrev uDiv : Nat := 134
@[match_pattern] abbrev sDiv : Nat := 135
@[match_pattern] abbrev fDiv : Nat := 136
@[match_pattern] abbrev uMod : Nat := 137
@[match_pattern] abbrev sRem : Nat := 138
@[match_pattern] abbrev fRem : Nat := 140
@[match_pattern] abbrev vectorTimesScalar : Nat := 142
@[match_pattern] abbrev matrixTimesScalar : Nat := 143
@[match_pattern] abbrev vectorTimesMatrix : Nat := 144
@[match_pattern] abbrev matrixTimesVector : Nat := 145
@[match_pattern] abbrev matrixTimesMatrix : Nat := 146
@[match_pattern] abbrev outerProduct : Nat := 147
@[match_pattern] abbrev dot : Nat := 148
@[match_pattern] abbrev any : Nat := 154
@[match_pattern] abbrev all : Nat := 155
@[match_pattern] abbrev isNan : Nat := 156
@[match_pattern] abbrev isInf : Nat := 157
@[match_pattern] abbrev logicalEqual : Nat := 164
@[match_pattern] abbrev logicalNotEqual : Nat := 165
@[match_pattern] abbrev logicalOr : Nat := 166
@[match_pattern] abbrev logicalAnd : Nat := 167
@[match_pattern] abbrev logicalNot : Nat := 168
@[match_pattern] abbrev select : Nat := 169
@[match_pattern] abbrev iEqual : Nat := 170
@[match_pattern] abbrev iNotEqual : Nat := 171
@[match_pattern] abbrev uGreaterThan : Nat := 172
@[match_pattern] abbrev sGreaterThan : Nat := 173
@[match_pattern] abbrev uGreaterThanEqual : Nat := 174
@[match_pattern] abbrev sGreaterThanEqual : Nat := 175
@[match_pattern] abbrev uLessThan : Nat := 176
@[match_pattern] abbrev sLessThan : Nat := 177
@[match_pattern] abbrev uLessThanEqual : Nat := 178
@[match_pattern] abbrev sLessThanEqual : Nat := 179
@[match_pattern] abbrev fOrdEqual : Nat := 180
@[match_pattern] abbrev fUnordEqual : Nat := 181
@[match_pattern] abbrev fOrdNotEqual : Nat := 182
@[match_pattern] abbrev fUnordNotEqual : Nat := 183
@[match_pattern] abbrev fOrdLessThan : Nat := 184
@[match_pattern] abbrev fUnordLessThan : Nat := 185
@[match_pattern] abbrev fOrdGreaterThan : Nat := 186
@[match_pattern] abbrev fUnordGreaterThan : Nat := 187
@[match_pattern] abbrev fOrdLessThanEqual : Nat := 188
@[match_pattern] abbrev fUnordLessThanEqual : Nat := 189
@[match_pattern] abbrev fOrdGreaterThanEqual : Nat := 190
@[match_pattern] abbrev fUnordGreaterThanEqual : Nat := 191
@[match_pattern] abbrev shiftRightLogical : Nat := 194
@[match_pattern] abbrev shiftRightArithmetic : Nat := 195
@[match_pattern] abbrev shiftLeftLogical : Nat := 196
@[match_pattern] abbrev bitwiseOr : Nat := 197
@[match_pattern] abbrev bitwiseXor : Nat := 198
@[match_pattern] abbrev bitwiseAnd : Nat := 199
@[match_pattern] abbrev not : Nat := 200
@[match_pattern] abbrev bitReverse : Nat := 204
@[match_pattern] abbrev bitCount : Nat := 205
@[match_pattern] abbrev dPdx : Nat := 207
@[match_pattern] abbrev dPdy : Nat := 208
@[match_pattern] abbrev fwidth : Nat := 209
@[match_pattern] abbrev dPdxFine : Nat := 210
@[match_pattern] abbrev dPdyFine : Nat := 211
@[match_pattern] abbrev fwidthFine : Nat := 212
@[match_pattern] abbrev dPdxCoarse : Nat := 213
@[match_pattern] abbrev dPdyCoarse : Nat := 214
@[match_pattern] abbrev fwidthCoarse : Nat := 215
@[match_pattern] abbrev controlBarrier : Nat := 224
@[match_pattern] abbrev phi : Nat := 245
@[match_pattern] abbrev loopMerge : Nat := 246
@[match_pattern] abbrev selectionMerge : Nat := 247
@[match_pattern] abbrev label : Nat := 248
@[match_pattern] abbrev branch : Nat := 249
@[match_pattern] abbrev branchConditional : Nat := 250
@[match_pattern] abbrev switch : Nat := 251
@[match_pattern] abbrev kill : Nat := 252
@[match_pattern] abbrev ret : Nat := 253
@[match_pattern] abbrev returnValue : Nat := 254
@[match_pattern] abbrev unreachable : Nat := 255
@[match_pattern] abbrev noLine : Nat := 317
@[match_pattern] abbrev moduleProcessed : Nat := 330

end Code

namespace StorageClass

@[match_pattern] abbrev uniformConstant : Nat := 0
@[match_pattern] abbrev input : Nat := 1
@[match_pattern] abbrev uniform : Nat := 2
@[match_pattern] abbrev output : Nat := 3
@[match_pattern] abbrev workgroup : Nat := 4
@[match_pattern] abbrev private_ : Nat := 6
@[match_pattern] abbrev function : Nat := 7
@[match_pattern] abbrev pushConstant : Nat := 9
@[match_pattern] abbrev storageBuffer : Nat := 12

end StorageClass

namespace Decoration

@[match_pattern] abbrev specId : Nat := 1
@[match_pattern] abbrev block : Nat := 2
@[match_pattern] abbrev bufferBlock : Nat := 3
@[match_pattern] abbrev rowMajor : Nat := 4
@[match_pattern] abbrev colMajor : Nat := 5
@[match_pattern] abbrev arrayStride : Nat := 6
@[match_pattern] abbrev matrixStride : Nat := 7
@[match_pattern] abbrev builtIn : Nat := 11
@[match_pattern] abbrev noPerspective : Nat := 13
@[match_pattern] abbrev flat : Nat := 14
@[match_pattern] abbrev centroid : Nat := 16
@[match_pattern] abbrev sample : Nat := 17
@[match_pattern] abbrev invariant : Nat := 18
@[match_pattern] abbrev nonWritable : Nat := 24
@[match_pattern] abbrev nonReadable : Nat := 25
@[match_pattern] abbrev location : Nat := 30
@[match_pattern] abbrev index : Nat := 32
@[match_pattern] abbrev binding : Nat := 33
@[match_pattern] abbrev descriptorSet : Nat := 34
@[match_pattern] abbrev offset : Nat := 35

end Decoration

/-- An instruction as words: its length and number, then its operands. -/
def instruction (code : Nat) (operands : List Nat) : List Word :=
  ((operands.length + 1) * 65536 + code).toUInt32 :: operands.map (·.toUInt32)

/-- A text as operands. -/
def textOperands (s : String) : List Nat := (Words.encodeLiteral s).map (·.toNat)

end ShaderConvert.Spirv
