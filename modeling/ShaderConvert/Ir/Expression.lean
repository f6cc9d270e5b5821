import ShaderConvert.Ir.Operator
import ShaderConvert.Ir.Type
import ShaderConvert.Diagnostics

/-
Expressions and statements.

The expressions of a function stand in one list and refer to each other by their places in it. An
expression that does something when it is reached takes part in the program through a statement
`emit`, which evaluates a range of the list.
-/
namespace ShaderConvert.Ir

/-- The place of an expression in the list of its function or module. -/
abbrev ExprId := Nat

/-- A number or truth value written out. Floating point values are bit patterns. -/
inductive Literal where
  | f64 (bits : Nat)
  | f32 (bits : Nat)
  | u32 (value : Nat)
  | i32 (value : Int)
  | u64 (value : Nat)
  | i64 (value : Int)
  | bool (value : Bool)
  | abstractInt (value : Int)
  | abstractFloat (bits : Nat)
deriving Repr, DecidableEq, Inhabited

namespace Literal

def scalar : Literal → Scalar
  | f64 _ => .f64
  | f32 _ => .f32
  | u32 _ => .u32
  | i32 _ => .i32
  | u64 _ => .u64
  | i64 _ => .i64
  | bool _ => .bool
  | abstractInt _ => .abstractInt
  | abstractFloat _ => .abstractFloat

/-- The literal zero of a scalar, where there is one. -/
def zero? (s : Scalar) : Option Literal :=
  match s.kind, s.width with
  | .sint, 4 => some (i32 0)
  | .uint, 4 => some (u32 0)
  | .float, 4 => some (f32 0)
  | .sint, 8 => some (i64 0)
  | .uint, 8 => some (u64 0)
  | .float, 8 => some (f64 0)
  | .bool, 1 => some (bool false)
  | .abstractInt, 8 => some (abstractInt 0)
  | .abstractFloat, 8 => some (abstractFloat 0)
  | _, _ => none

end Literal

/-- Which level of an image is sampled. -/
inductive SampleLevel where
  | automatic
  | zero
  | exact (level : ExprId)
  | bias (bias : ExprId)
deriving Repr, DecidableEq, Inhabited

inductive Expression where
  | literal (value : Literal)
  | constant (index : Nat)
  | override (index : Nat)
  | zeroValue (type : TypeId)
  | compose (type : TypeId) (components : List ExprId)
  | access (base index : ExprId)
  | accessIndex (base : ExprId) (index : Nat)
  | splat (size : VectorSize) (value : ExprId)
  | swizzle (size : VectorSize) (vector : ExprId) (pattern : List SwizzleComponent)
  | functionArgument (index : Nat)
  | globalVariable (index : Nat)
  | localVariable (index : Nat)
  | load (pointer : ExprId)
  | imageSample (image sampler coordinate : ExprId) (arrayIndex : Option ExprId)
      (level : SampleLevel) (depthReference : Option ExprId)
  | unary (op : UnaryOperator) (operand : ExprId)
  | binary (op : BinaryOperator) (left right : ExprId)
  | select (condition accept reject : ExprId)
  | derivative (axis : DerivativeAxis) (control : DerivativeControl) (operand : ExprId)
  | relational (function : RelationalFunction) (argument : ExprId)
  | math (function : MathFunction) (arguments : List ExprId)
  /-- A value as another kind: converted to a width, or with its bits kept. -/
  | convert (operand : ExprId) (kind : ScalarKind) (width : Option Nat)
  | callResult (function : Nat)
  | arrayLength (array : ExprId)
deriving Repr, DecidableEq, Inhabited

namespace Expression

/-- The expressions that an expression is made of, in order. -/
def operands : Expression → List ExprId
  | literal _ | constant _ | override _ | zeroValue _ | functionArgument _ | globalVariable _
  | localVariable _ | callResult _ => []
  | compose _ components => components
  | access base index => [base, index]
  | accessIndex base _ => [base]
  | splat _ value => [value]
  | swizzle _ vector _ => [vector]
  | load pointer => [pointer]
  | imageSample image sampler coordinate arrayIndex level depthReference =>
    [image, sampler, coordinate] ++ arrayIndex.toList ++
      (match level with
        | .automatic | .zero => []
        | .exact e | .bias e => [e])
      ++ depthReference.toList
  | unary _ e | derivative _ _ e | relational _ e | convert e _ _ | arrayLength e => [e]
  | binary _ l r => [l, r]
  | select c a r => [c, a, r]
  | math _ args => args

/-- The expression with each operand replaced. -/
def mapOperands (f : ExprId → ExprId) : Expression → Expression
  | compose t components => compose t (components.map f)
  | access base index => access (f base) (f index)
  | accessIndex base i => accessIndex (f base) i
  | splat n value => splat n (f value)
  | swizzle n vector pattern => swizzle n (f vector) pattern
  | load pointer => load (f pointer)
  | imageSample image sampler coordinate arrayIndex level depthReference =>
    imageSample (f image) (f sampler) (f coordinate) (arrayIndex.map f)
      (match level with
        | .exact e => .exact (f e)
        | .bias e => .bias (f e)
        | other => other)
      (depthReference.map f)
  | unary op e => unary op (f e)
  | derivative a c e => derivative a c (f e)
  | relational g e => relational g (f e)
  | convert e k w => convert (f e) k w
  | arrayLength e => arrayLength (f e)
  | binary op l r => binary op (f l) (f r)
  | select c a r => select (f c) (f a) (f r)
  | math g args => math g (args.map f)
  | other => other

/-- Expressions that stand for a value before the first statement; no `emit` covers them. -/
def needsNoEmit : Expression → Bool
  | literal _ | constant _ | override _ | zeroValue _ | functionArgument _ | globalVariable _
  | localVariable _ => true
  | _ => false

end Expression

/-- When a case of a switch is taken. -/
inductive SwitchValue where
  | i32 (value : Int)
  | u32 (value : Nat)
  | default
deriving Repr, DecidableEq, Inhabited

mutual

/-- A statement; `emit` evaluates the expressions from a first place up to an end. -/
inductive Statement where
  | emit (first stop : ExprId)
  | block (body : Block)
  | branch (condition : ExprId) (accept reject : Block)
  | switch (selector : ExprId) (cases : List SwitchCase)
  | loop (body continuing : Block) (breakIf : Option ExprId)
  | exit
  | next
  | ret (value : Option ExprId)
  | kill
  | barrier (storage workGroup : Bool)
  | store (pointer value : ExprId)
  | call (function : Nat) (arguments : List ExprId) (result : Option ExprId)

/-- Statements with the places in the source where they stand. -/
inductive Block where
  | mk (statements : List (Statement × Span))

inductive SwitchCase where
  | mk (value : SwitchValue) (body : Block) (fallThrough : Bool)

end

instance : Inhabited Statement := ⟨.exit⟩
instance : Inhabited Block := ⟨.mk []⟩
instance : Inhabited SwitchCase := ⟨.mk .default (.mk []) false⟩

namespace Block

def empty : Block := .mk []

def statements : Block → List (Statement × Span)
  | mk ss => ss

def isEmpty (b : Block) : Bool := b.statements.isEmpty

def push (b : Block) (s : Statement) (at_ : Span) : Block := .mk (b.statements ++ [(s, at_)])

def append (a b : Block) : Block := .mk (a.statements ++ b.statements)

end Block

end ShaderConvert.Ir
