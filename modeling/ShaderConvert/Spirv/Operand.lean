/-
The kinds of operands of an instruction.

An operand pattern is a list of kinds, front first. Some kinds stand for a sequence of unknown
length; `takeKind` unrolls such a kind once when it comes to the front, so that a reader only ever
meets kinds of single operands. An operand may bring operands of its own, which go to the front of
the pattern.
-/
namespace ShaderConvert.Spirv

/-- The families of named values. -/
inductive Family where
  | sourceLanguage
  | executionModel
  | addressingModel
  | memoryModel
  | executionMode
  | storageClass
  | dimensionality
  | samplerAddressingMode
  | samplerFilterMode
  | imageFormat
  | roundingMode
  | linkageType
  | accessQualifier
  | parameterAttribute
  | decoration
  | builtIn
  | groupOperation
  | kernelEnqueueFlags
  | capability
  | fastMathMode
  | imageOperands
  | selectionControl
  | loopControl
  | functionControl
  | memoryAccess
  | kernelProfilingInfo
deriving Repr, DecidableEq, Inhabited

namespace Family

/-- The words for a family in messages. -/
def description : Family → String
  | sourceLanguage => "source language"
  | executionModel => "execution model"
  | addressingModel => "addressing model"
  | memoryModel => "memory model"
  | executionMode => "execution mode"
  | storageClass => "storage class"
  | dimensionality => "dimensionality"
  | samplerAddressingMode => "sampler addressing mode"
  | samplerFilterMode => "sampler filter mode"
  | imageFormat => "image format"
  | roundingMode => "floating point rounding mode"
  | linkageType => "linkage type"
  | accessQualifier => "access qualifier"
  | parameterAttribute => "function parameter attribute"
  | decoration => "decoration"
  | builtIn => "built-in"
  | groupOperation => "group operation"
  | kernelEnqueueFlags => "kernel enqueue flags"
  | capability => "capability"
  | fastMathMode => "floating point fast math mode"
  | imageOperands => "image"
  | selectionControl => "selection control"
  | loopControl => "loop control"
  | functionControl => "function control"
  | memoryAccess => "memory access"
  | kernelProfilingInfo => "kernel profiling info"

/-- Are the values of the family sets of bits? -/
def isMask : Family → Bool
  | fastMathMode | imageOperands | selectionControl | loopControl | functionControl | memoryAccess
  | kernelProfilingInfo => true
  | _ => false

end Family

/-- What may stand at a place of an instruction. -/
inductive OperandKind where
  | id
  | optionalId
  | typeId
  | resultId
  | scopeId
  | memorySemanticsId
  | integer
  | optionalInteger
  /-- A number of the type of a constant. -/
  | typedNumber
  /-- A number of the type of a selector. -/
  | optionalTypedInteger
  | string
  | optionalString
  /-- The number of an instruction of an imported set. -/
  | extendedInstruction
  /-- The number of the instruction that a specialization constant applies. -/
  | constantOpcode
  | named (f : Family)
  | optionalNamed (f : Family)
  /-- Any number of ids. -/
  | ids
  /-- Any number of integers. -/
  | integers
  /-- Any number of pairs of a typed integer and an id. -/
  | integerIdPairs
  /-- Any number of pairs of an id and an integer. -/
  | idIntegerPairs
  /-- Any number of words of any form. -/
  | anything
deriving Repr, DecidableEq, Inhabited

namespace OperandKind

/-- May an instruction end before an operand of this kind? -/
def isOptional : OperandKind → Bool
  | optionalId | optionalInteger | optionalTypedInteger | optionalString | optionalNamed _ | ids
  | integers | integerIdPairs | idIntegerPairs | anything => true
  | _ => false

/-- The words for a kind in messages. -/
def description : OperandKind → String
  | id | optionalId | ids => "ID"
  | typeId => "type ID"
  | resultId => "result ID"
  | scopeId => "scope ID"
  | memorySemanticsId => "memory semantics ID"
  | integer | optionalInteger | integers | idIntegerPairs => "literal number"
  | typedNumber => "possibly multi-word literal number"
  | optionalTypedInteger | integerIdPairs => "possibly multi-word literal integer"
  | string | optionalString => "literal string"
  | extendedInstruction => "extension instruction number"
  | constantOpcode => "OpSpecConstantOp opcode"
  | named f | optionalNamed f => f.description
  | anything => "context-insensitive value"

end OperandKind

/-- Kinds in the order in which operands are read. -/
abbrev Pattern := List OperandKind

/-- The kind of the next operand and the pattern behind it. -/
def takeKind : Pattern → Option (OperandKind × Pattern)
  | [] => none
  | .ids :: r => some (.optionalId, .ids :: r)
  | .integers :: r => some (.optionalInteger, .integers :: r)
  | .integerIdPairs :: r => some (.optionalTypedInteger, .id :: .integerIdPairs :: r)
  | .idIntegerPairs :: r => some (.optionalId, .integer :: .idIntegerPairs :: r)
  | k :: r => some (k, r)

end ShaderConvert.Spirv
