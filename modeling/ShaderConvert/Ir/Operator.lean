/-
Operators and functions of expressions, with their names in messages and in source texts.
-/
namespace ShaderConvert.Ir

inductive UnaryOperator where
  | negate
  | logicalNot
  | bitwiseNot
deriving Repr, DecidableEq, Inhabited

namespace UnaryOperator

def title : UnaryOperator → String
  | negate => "Negate"
  | logicalNot => "LogicalNot"
  | bitwiseNot => "BitwiseNot"

def symbol : UnaryOperator → String
  | negate => "-"
  | logicalNot => "!"
  | bitwiseNot => "~"

end UnaryOperator

inductive BinaryOperator where
  | add
  | subtract
  | multiply
  | divide
  | modulo
  | equal
  | notEqual
  | less
  | lessEqual
  | greater
  | greaterEqual
  | and
  | exclusiveOr
  | inclusiveOr
  | logicalAnd
  | logicalOr
  | shiftLeft
  | shiftRight
deriving Repr, DecidableEq, Inhabited

namespace BinaryOperator

def title : BinaryOperator → String
  | add => "Add"
  | subtract => "Subtract"
  | multiply => "Multiply"
  | divide => "Divide"
  | modulo => "Modulo"
  | equal => "Equal"
  | notEqual => "NotEqual"
  | less => "Less"
  | lessEqual => "LessEqual"
  | greater => "Greater"
  | greaterEqual => "GreaterEqual"
  | and => "And"
  | exclusiveOr => "ExclusiveOr"
  | inclusiveOr => "InclusiveOr"
  | logicalAnd => "LogicalAnd"
  | logicalOr => "LogicalOr"
  | shiftLeft => "ShiftLeft"
  | shiftRight => "ShiftRight"

def symbol : BinaryOperator → String
  | add => "+"
  | subtract => "-"
  | multiply => "*"
  | divide => "/"
  | modulo => "%"
  | equal => "=="
  | notEqual => "!="
  | less => "<"
  | lessEqual => "<="
  | greater => ">"
  | greaterEqual => ">="
  | and => "&"
  | exclusiveOr => "^"
  | inclusiveOr => "|"
  | logicalAnd => "&&"
  | logicalOr => "||"
  | shiftLeft => "<<"
  | shiftRight => ">>"

/-- Is the result a truth value whatever the operands are? -/
def isComparison : BinaryOperator → Bool
  | equal | notEqual | less | lessEqual | greater | greaterEqual => true
  | _ => false

def isShift : BinaryOperator → Bool
  | shiftLeft | shiftRight => true
  | _ => false

end BinaryOperator

/-- Built-in functions on numbers. -/
inductive MathFunction where
  | abs | min | max | clamp | saturate
  | cos | cosh | sin | sinh | tan | tanh | acos | asin | atan | atan2 | asinh | acosh | atanh
  | radians | degrees
  | ceil | floor | round | fract | trunc | ldexp
  | exp | exp2 | log | log2 | pow
  | dot | outer | cross | distance | length | normalize | faceForward | reflect | refract
  | sign | fma | mix | step | smoothStep | sqrt | inverseSqrt
  | inverse | transpose | determinant
  | countTrailingZeros | countLeadingZeros | countOneBits | reverseBits
  | extractBits | insertBits | firstTrailingBit | firstLeadingBit
deriving Repr, DecidableEq, Inhabited

namespace MathFunction

def all : List MathFunction :=
  [abs, min, max, clamp, saturate, cos, cosh, sin, sinh, tan, tanh, acos, asin, atan, atan2, asinh,
    acosh, atanh, radians, degrees, ceil, floor, round, fract, trunc, ldexp, exp, exp2, log, log2,
    pow, dot, outer, cross, distance, length, normalize, faceForward, reflect, refract, sign, fma,
    mix, step, smoothStep, sqrt, inverseSqrt, inverse, transpose, determinant, countTrailingZeros,
    countLeadingZeros, countOneBits, reverseBits, extractBits, insertBits, firstTrailingBit,
    firstLeadingBit]

/-- The name in messages. -/
def title : MathFunction → String
  | abs => "Abs" | min => "Min" | max => "Max" | clamp => "Clamp" | saturate => "Saturate"
  | cos => "Cos" | cosh => "Cosh" | sin => "Sin" | sinh => "Sinh" | tan => "Tan" | tanh => "Tanh"
  | acos => "Acos" | asin => "Asin" | atan => "Atan" | atan2 => "Atan2" | asinh => "Asinh"
  | acosh => "Acosh" | atanh => "Atanh" | radians => "Radians" | degrees => "Degrees"
  | ceil => "Ceil" | floor => "Floor" | round => "Round" | fract => "Fract" | trunc => "Trunc"
  | ldexp => "Ldexp" | exp => "Exp" | exp2 => "Exp2" | log => "Log" | log2 => "Log2"
  | pow => "Pow" | dot => "Dot" | outer => "Outer" | cross => "Cross" | distance => "Distance"
  | length => "Length" | normalize => "Normalize" | faceForward => "FaceForward"
  | reflect => "Reflect" | refract => "Refract" | sign => "Sign" | fma => "Fma" | mix => "Mix"
  | step => "Step" | smoothStep => "SmoothStep" | sqrt => "Sqrt" | inverseSqrt => "InverseSqrt"
  | inverse => "Inverse" | transpose => "Transpose" | determinant => "Determinant"
  | countTrailingZeros => "CountTrailingZeros" | countLeadingZeros => "CountLeadingZeros"
  | countOneBits => "CountOneBits" | reverseBits => "ReverseBits" | extractBits => "ExtractBits"
  | insertBits => "InsertBits" | firstTrailingBit => "FirstTrailingBit"
  | firstLeadingBit => "FirstLeadingBit"

/-- The name in source texts; two functions have none. -/
def sourceName? : MathFunction → Option String
  | abs => some "abs" | min => some "min" | max => some "max" | clamp => some "clamp"
  | saturate => some "saturate" | cos => some "cos" | cosh => some "cosh" | sin => some "sin"
  | sinh => some "sinh" | tan => some "tan" | tanh => some "tanh" | acos => some "acos"
  | asin => some "asin" | atan => some "atan" | atan2 => some "atan2" | asinh => some "asinh"
  | acosh => some "acosh" | atanh => some "atanh" | radians => some "radians"
  | degrees => some "degrees" | ceil => some "ceil" | floor => some "floor"
  | round => some "round" | fract => some "fract" | trunc => some "trunc"
  | ldexp => some "ldexp" | exp => some "exp" | exp2 => some "exp2" | log => some "log"
  | log2 => some "log2" | pow => some "pow" | dot => some "dot" | outer => none
  | cross => some "cross" | distance => some "distance" | length => some "length"
  | normalize => some "normalize" | faceForward => some "faceForward"
  | reflect => some "reflect" | refract => some "refract" | sign => some "sign"
  | fma => some "fma" | mix => some "mix" | step => some "step"
  | smoothStep => some "smoothstep" | sqrt => some "sqrt" | inverseSqrt => some "inverseSqrt"
  | inverse => none | transpose => some "transpose" | determinant => some "determinant"
  | countTrailingZeros => some "countTrailingZeros"
  | countLeadingZeros => some "countLeadingZeros" | countOneBits => some "countOneBits"
  | reverseBits => some "reverseBits" | extractBits => some "extractBits"
  | insertBits => some "insertBits" | firstTrailingBit => some "firstTrailingBit"
  | firstLeadingBit => some "firstLeadingBit"

def ofSourceName? (s : String) : Option MathFunction := all.find? (·.sourceName? = some s)

def argumentCount : MathFunction → Nat
  | min | max | atan2 | ldexp | pow | dot | outer | cross | distance | reflect | step => 2
  | clamp | faceForward | refract | fma | mix | smoothStep | extractBits => 3
  | insertBits => 4
  | _ => 1

end MathFunction

/-- Built-in functions that answer yes or no. -/
inductive RelationalFunction where
  | all
  | any
  | isNan
  | isInf
deriving Repr, DecidableEq, Inhabited

namespace RelationalFunction

def title : RelationalFunction → String
  | all => "All"
  | any => "Any"
  | isNan => "IsNan"
  | isInf => "IsInf"

end RelationalFunction

/-- Which way a derivative is taken. -/
inductive DerivativeAxis where
  | x
  | y
  | width
deriving Repr, DecidableEq, Inhabited

/-- How exactly a derivative is taken. -/
inductive DerivativeControl where
  | coarse
  | fine
  | none
deriving Repr, DecidableEq, Inhabited

/-- The parts of a vector, in order. -/
inductive SwizzleComponent where
  | x
  | y
  | z
  | w
deriving Repr, DecidableEq, Inhabited

namespace SwizzleComponent

def index : SwizzleComponent → Nat
  | x => 0
  | y => 1
  | z => 2
  | w => 3

def ofIndex? : Nat → Option SwizzleComponent
  | 0 => some x
  | 1 => some y
  | 2 => some z
  | 3 => some w
  | _ => none

def letter : SwizzleComponent → Char
  | x => 'x'
  | y => 'y'
  | z => 'z'
  | w => 'w'

end SwizzleComponent

end ShaderConvert.Ir
