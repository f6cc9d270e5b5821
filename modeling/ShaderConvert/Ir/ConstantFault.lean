import ShaderConvert.Ir.Typing

/-
Why a constant expression has no value, and why a literal cannot be part of a program.
-/
namespace ShaderConvert.Ir

inductive LiteralFault where
  | notANumber
  | infinite
deriving Repr, DecidableEq, Inhabited

def LiteralFault.message : LiteralFault → String
  | notANumber => "Float literal is NaN"
  | infinite => "Float literal is infinite"

inductive ConstantFault where
  | accessBase
  | accessIndex
  | accessIndexType
  | arrayLength
  | castArgument (expr : String) (goal : String)
  | unaryArgument
  | binaryArguments
  | mathArgument
  | mathArgumentCount (f : MathFunction) (expected given : Nat)
  /-- A vector has fewer components than its type says. Nothing can be made of it. -/
  | missingComponent (count index : Nat)
  | clampRange
  | splatScalarOnly
  | swizzleVectorOnly
  | swizzleOutOfBounds
  | typeNotConstructible
  | notConstant
  | notImplemented (what : String)
  | overflow (what : String)
  | lossyConversion (value : String) (goal : String)
  | floatToInteger
  | divisionByZero
  | remainderByZero
  | shiftedTooFar
  | literal (fault : LiteralFault)
  | override
  | runtimeExpression
  | overrideExpression
  | typing (fault : TypingFault)
deriving Repr, DecidableEq, Inhabited

namespace ConstantFault

def message : ConstantFault → String
  | accessBase => "Cannot access the type"
  | accessIndex => "Cannot access at the index"
  | accessIndexType => "Cannot access with index of type"
  | arrayLength => "Constants don't support array length expressions"
  | castArgument e goal =>
    "Cannot cast scalar components of expression `" ++ e ++ "` to type `" ++ goal ++ "`"
  | unaryArgument => "Cannot apply the unary op to the argument"
  | binaryArguments => "Cannot apply the binary op to the arguments"
  | mathArgument => "Cannot apply math function to type"
  | mathArgumentCount f expected given =>
    f.title ++ s!" built-in function expects {expected} arguments but {given} were supplied"
  | missingComponent count index =>
    s!"index out of bounds: the len is {count} but the index is {index}"
  | clampRange => "value of `low` is greater than `high` for clamp built-in function"
  | splatScalarOnly => "Splat is defined only on scalar values"
  | swizzleVectorOnly => "Can only swizzle vector constants"
  | swizzleOutOfBounds => "swizzle component not present in source expression"
  | typeNotConstructible => "Type is not constructible"
  | notConstant => "Subexpression(s) are not constant"
  | notImplemented what => "Not implemented as constant expression: " ++ what
  | overflow what => what ++ " operation overflowed"
  | lossyConversion value goal =>
    "the concrete type `" ++ goal ++ "` cannot represent the abstract value `" ++ value
      ++ "` accurately"
  | floatToInteger =>
    "abstract floating-point values cannot be automatically converted to integers"
  | divisionByZero => "Division by zero"
  | remainderByZero => "Remainder by zero"
  | shiftedTooFar => "RHS of shift operation is greater than or equal to 32"
  | literal f => f.message
  | override => "Can't use pipeline-overridable constants in const-expressions"
  | runtimeExpression => "Unexpected runtime-expression"
  | overrideExpression => "Unexpected override-expression"
  | typing f => f.message

end ConstantFault

end ShaderConvert.Ir
