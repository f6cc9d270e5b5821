import ShaderConvert.Ir.ConstantFault
import ShaderConvert.Ir.LiteralArithmetic
import ShaderConvert.Ir.Usage
import ShaderConvert.Ir.Validity.Type

/-
Which expressions are valid: each operation takes operands of certain shapes only.
-/
namespace ShaderConvert.Ir

/-- Why a value cannot be composed. -/
inductive ComposeFault where
  | type (type : TypeId)
  | count (given expected : Nat)
  | component (index : Nat)
deriving Repr, DecidableEq, Inhabited

def ComposeFault.message : ComposeFault → String
  | type t => s!"Composing of type [{t}] can't be done"
  | count given expected => s!"Composing expects {expected} components but {given} were given"
  | component i => s!"Composing {i}'s component type is not expected"

inductive ExpressionFault where
  | notInScope
  | baseType (e : ExprId)
  | indexType (e : ExprId)
  | negativeIndex (e : ExprId)
  | indexOutOfBounds (e : ExprId) (index : Nat)
  | indexMustBeConstant (e : ExprId)
  | argumentMissing (index : Nat)
  | pointerType (e : ExprId)
  | arrayType (e : ExprId)
  | splatType (e : ExprId)
  | vectorType (e : ExprId)
  | swizzleComponent (component : SwizzleComponent) (size : VectorSize)
  | compose (fault : ComposeFault)
  | unary (op : UnaryOperator) (e : ExprId)
  | binary (op : BinaryOperator) (left right : ExprId)
  | select
  | truthVector (e : ExprId)
  | floatArgument (e : ExprId)
  | typing (fault : TypingFault)
  | expectedGlobalOrArgument
  | expectedImage (type : TypeId)
  | expectedSampler (type : TypeId)
  | imageClass (cls : ImageClass)
  | derivative
  | imageArrayIndex
  | imageArrayIndexType (e : ExprId)
  | imageCoordinate (dimension : ImageDimension) (e : ExprId)
  | comparisonSampling (cls : ImageClass) (comparison hasReference : Bool)
  | depthReference (e : ExprId)
  | depthSampleLevel
  | exactLevelType (e : ExprId)
  | biasType (e : ExprId)
  | cast
  | argumentCount (f : MathFunction)
  | argumentType (f : MathFunction) (index : Nat) (e : ExprId)
  | literal (fault : LiteralFault)
  | width (fault : TypeFault)
deriving Repr, DecidableEq, Inhabited

def boolTitle (b : Bool) : String := if b then "true" else "false"

def ImageDimension.title : ImageDimension → String
  | d1 => "D1"
  | d2 => "D2"
  | d3 => "D3"
  | cube => "Cube"

def ImageClass.title : ImageClass → String
  | sampled k multi => "Sampled \x7b kind: " ++ k.title ++ ", multi: " ++ boolTitle multi ++ " \x7d"
  | depth multi => "Depth \x7b multi: " ++ boolTitle multi ++ " \x7d"

namespace ExpressionFault

/-- The fault and its own causes, outermost first. -/
def texts : ExpressionFault → List String
  | notInScope => ["Used by a statement before it was introduced into the scope by any of the "
      ++ "dominating blocks"]
  | baseType e => [s!"Base type [{e}] is not compatible with this expression"]
  | indexType e => [s!"Accessing with index [{e}] can't be done"]
  | negativeIndex e => [s!"Accessing [{e}] via a negative index is invalid"]
  | indexOutOfBounds e i => [s!"Accessing index {i} is out of [{e}] bounds"]
  | indexMustBeConstant e => [s!"The expression [{e}] may only be indexed by a constant"]
  | argumentMissing i => [s!"Function argument {i} doesn't exist"]
  | pointerType e => [s!"Loading of [{e}] can't be done"]
  | arrayType e => [s!"Array length of [{e}] can't be done"]
  | splatType e => [s!"Splatting [{e}] can't be done"]
  | vectorType e => [s!"Swizzling [{e}] can't be done"]
  | swizzleComponent c n =>
    ["Swizzle component " ++ (String.singleton c.letter).toUpper ++ " is outside of vector size "
      ++ n.title]
  | compose f => [f.message]
  | unary op e => ["Operation " ++ op.title ++ s!" can't work with [{e}]"]
  | binary op l r => ["Operation " ++ op.title ++ s!" can't work with [{l}] and [{r}]"]
  | select => ["Selecting is not possible"]
  | truthVector e => [s!"Relational argument [{e}] is not a boolean vector"]
  | floatArgument e => [s!"Relational argument [{e}] is not a float"]
  | typing f => ["Type resolution failed", f.message]
  | expectedGlobalOrArgument => ["Not a global variable or a function argument"]
  | expectedImage t => [s!"Needs to be an image instead of [{t}]"]
  | expectedSampler t => [s!"Needs to be an image instead of [{t}]"]
  | imageClass c => ["Unable to operate on image class " ++ c.title]
  | derivative => ["Derivatives can only be taken from scalar and vector floats"]
  | imageArrayIndex => ["Image array index parameter is misplaced"]
  | imageArrayIndexType e => [s!"Image array index type of [{e}] is not an integer scalar"]
  | imageCoordinate d e =>
    [s!"Image coordinate type of [{e}] does not match dimension " ++ d.title]
  | comparisonSampling c s r =>
    ["Comparison sampling mismatch: image has class " ++ c.title
      ++ ", but the sampler is comparison=" ++ boolTitle s ++ ", and the reference was provided="
      ++ boolTitle r]
  | depthReference e => [s!"Depth reference [{e}] is not a scalar float"]
  | depthSampleLevel => ["Depth sample level can only be Auto or Zero"]
  | exactLevelType e => [s!"Sample level (exact) type [{e}] is not a scalar float"]
  | biasType e => [s!"Sample level (bias) type [{e}] is not a scalar float"]
  | cast => ["Unable to cast"]
  | argumentCount f => ["Invalid argument count for " ++ f.title]
  | argumentType f i e =>
    [s!"Argument [{i}] to " ++ f.title ++ s!" as expression [{e}] has an invalid type."]
  | literal f => [f.message]
  | width f => [f.message]

end ExpressionFault

namespace Validity

/-- What the validity of an expression depends on. -/
structure Scope where
  module : Module
  typeInfo : Array TypeInfo
  function : Function
  shapeOf : ExprId → Shape
  infoOf : ExprId → Resolved

abbrev Check := Except ExpressionFault Unit

def demand (b : Bool) (f : ExpressionFault) : Check := if b then .ok () else .error f

/-- Components of a vector, with vectors counted by their own components. -/
def checkVectorParts (size : VectorSize) (scalar : Scalar) (parts : List Shape) :
    Except ComposeFault Unit := do
  let total ← parts.zipIdx.foldlM (fun n (s, i) =>
    match s with
    | .scalar x => if x = scalar then .ok (n + 1) else .error (.component i)
    | .vector k x => if x = scalar then .ok (n + k.count) else .error (.component i)
    | _ => .error (.component i)) 0
  if total = size.count then .ok () else .error (.count total size.count)

/-- Is a value composed of the right parts? -/
def checkCompose (types : Arena ShaderType) (t : TypeId) (parts : List Resolved) :
    Except ComposeFault Unit := do
  let shapes := parts.map (·.shapeIn types)
  let sameAs (goal : Shape) : Except ComposeFault Unit :=
    shapes.zipIdx.forM fun (s, i) => if s.equivalent types goal then .ok () else .error (.component i)
  match (types.get t).shape with
  | .vector n s => checkVectorParts n s shapes
  | .matrix c r s => do
    if c.count ≠ shapes.length then .error (.count shapes.length c.count)
    else sameAs (.vector r s)
  | .array base (.constant n) _ => do
    if n ≠ shapes.length then .error (.count shapes.length n)
    else sameAs (types.get base).shape
  | .struct members _ =>
    if members.length ≠ shapes.length then .error (.count shapes.length members.length)
    else (shapes.zip members).zipIdx.forM fun ((s, m), i) =>
      if s.equivalent types (types.get m.type).shape then .ok () else .error (.component i)
  | _ => .error (.type t)

def checkLiteral (l : Literal) : Check :=
  match TypeInfo.checkWidth l.scalar with
  | .error f => .error (.width f)
  | .ok () =>
    match l.check with
    | .error (.literal f) => .error (.literal f)
    | _ => .ok ()

/-- Are values of the shape of a fixed size? -/
def isSized (types : Arena ShaderType) : Nat → Shape → Bool
  | _, .scalar _ | _, .vector _ _ | _, .matrix _ _ _ | _, .pointer _ _ | _, .valuePointer _ _ _ =>
    true
  | _, .array _ (.constant _) _ => true
  | d + 1, .struct members _ =>
    match members.getLast? with
    | some m => isSized types d (types.get m.type).shape
    | none => true
  | _, _ => false

def isNumberShape (allowed : List ScalarKind) : Shape → Bool
  | .scalar s | .vector _ s => allowed.contains s.kind
  | _ => false

def checkProduct (l r : Shape) : Bool :=
  let kind := match l.scalarKind? with
    | some .uint | some .sint | some .float => true
    | _ => false
  let shapes := match l, r with
    | .scalar a, .scalar b | .vector _ a, .scalar b | .scalar a, .vector _ b => a == b
    | .scalar a, .matrix _ _ _ => a.kind == .float
    | .matrix _ _ _, .scalar b => b.kind == .float
    | .vector m a, .vector n b => a == b && m == n
    | .matrix c _ _, .vector n b => b.kind == .float && c == n
    | .vector n a, .matrix _ rows _ => a.kind == .float && n == rows
    | .matrix c _ _, .matrix _ rows _ => c == rows
    | _, _ => false
  kind && shapes && l.scalar?.map (·.width) == r.scalar?.map (·.width)

def checkShift (l r : Shape) : Bool :=
  match l, r with
  | .scalar a, .scalar b => a.kind.isInteger && b.kind == .uint
  | .vector m a, .vector n b => a.kind.isInteger && b.kind == .uint && m == n
  | _, _ => false

/-- Does an operator work with operands of these shapes? -/
def binaryWorks (types : Arena ShaderType) (op : BinaryOperator) (l r : Shape) : Bool :=
  let numbers : List ScalarKind := [.uint, .sint, .float]
  match op with
  | .add | .subtract =>
    (match l with
      | .matrix _ _ _ => true
      | _ => isNumberShape numbers l) && l == r
  | .divide | .modulo | .less | .lessEqual | .greater | .greaterEqual =>
    isNumberShape numbers l && l == r
  | .multiply => checkProduct l r
  | .equal | .notEqual => isSized types (types.size + 1) l && l == r
  | .logicalAnd | .logicalOr => isNumberShape [.bool] l && l == r
  | .and | .inclusiveOr => isNumberShape [.bool, .sint, .uint] l && l == r
  | .exclusiveOr => isNumberShape [.sint, .uint] l && l == r
  | .shiftLeft | .shiftRight => checkShift l r

def unaryWorks (op : UnaryOperator) (s : Shape) : Bool :=
  match op, s.scalarKind? with
  | .negate, some .float | .negate, some .sint | .logicalNot, some .bool
  | .bitwiseNot, some .sint | .bitwiseNot, some .uint => true
  | _, _ => false

def selectWorks (condition accept reject : Shape) : Bool :=
  let fits := match accept, condition with
    | .scalar _, .scalar c => c.kind == .bool
    | .vector _ _, .scalar c => c.kind == .bool
    | .vector n _, .vector k c => c.kind == .bool && k == n
    | _, _ => false
  fits && accept == reject

/-- Which of the arguments of a function has a wrong shape. -/
def badArgument? (f : MathFunction) (shapes : List Shape) : Option Nat :=
  let first := shapes.headD (.sampler false)
  let at_ (i : Nat) : Shape := shapes[i]?.getD (.sampler false)
  let fits (b : Bool) (i : Nat) : Option Nat := if b then none else some i
  /- the shape of the first argument, and the same shape for the next ones -/
  let alike (b : Bool) (n : Nat) : Option Nat :=
    (fits b 0).or (((List.range n).drop 1).find? fun i => at_ i != first)
  let floats := isNumberShape [.float] first
  let whole := isNumberShape [.sint, .uint] first
  let isVector := match first with
    | .vector _ s => s.kind == .float
    | _ => false
  let isU32 (i : Nat) : Option Nat := fits (at_ i == .scalar .u32) i
  match f with
  | .abs => fits (isNumberShape [.sint, .uint, .float] first) 0
  | .min | .max | .clamp => alike (isNumberShape [.sint, .uint, .float] first) shapes.length
  | .sign => fits (isNumberShape [.float, .sint] first) 0
  | .atan2 | .pow | .distance | .step | .faceForward | .fma | .smoothStep =>
    alike floats shapes.length
  | .ldexp =>
    (fits floats 0).or (fits (match first, at_ 1 with
      | .scalar _, .scalar s => s.kind == .sint
      | .vector m _, .vector n s => s.kind == .sint && m == n
      | _, _ => false) 1)
  | .dot =>
    alike (match first with
      | .vector _ s => s.kind.isNumeric
      | _ => false) 2
  | .outer | .reflect => alike isVector 2
  | .cross =>
    alike (match first with
      | .vector .three s => s.kind == .float
      | _ => false) 2
  | .refract =>
    (alike isVector 2).or (fits (match first, at_ 2 with
      | .vector _ s, .scalar t => s == t
      | _, _ => false) 2)
  | .normalize => fits isVector 0
  | .mix =>
    (alike floats 2).or (fits (match first, at_ 2 with
      | .vector _ s, .scalar t => s == t
      | a, b => a == b) 2)
  | .inverse | .determinant =>
    fits (match first with
      | .matrix c r _ => c == r
      | _ => false) 0
  | .transpose =>
    fits (match first with
      | .matrix _ _ _ => true
      | _ => false) 0
  | .countTrailingZeros | .countLeadingZeros | .countOneBits | .reverseBits | .firstTrailingBit
  | .firstLeadingBit => fits whole 0
  | .extractBits => ((fits whole 0).or (isU32 1)).or (isU32 2)
  | .insertBits => ((alike whole 2).or (isU32 2)).or (isU32 3)
  | _ => fits floats 0

def checkMath (s : Scope) (f : MathFunction) (args : List ExprId) : Check := do
  demand (args.length = f.argumentCount) (.argumentCount f)
  match badArgument? f (args.map s.shapeOf) with
  | some i => .error (.argumentType f i (args[i]?.getD 0))
  | none => .ok ()

/-- The value of an index that is known, or why it is wrong. -/
def knownIndex (s : Scope) (base index : ExprId) : Except ExpressionFault (Option Nat) :=
  let ofLiteral : Literal → Except ExpressionFault (Option Nat)
    | .u32 n => .ok (some n)
    | .i32 n => if n < 0 then .error (.negativeIndex base) else .ok (some n.toNat)
    | _ => .ok none
  let zeroOf (t : TypeId) : Except ExpressionFault (Option Nat) :=
    match s.module.shapeOf t with
    | .scalar x => if x.kind.isInteger then .ok (some 0) else .ok none
    | _ => .ok none
  match s.function.expressions.get index with
  | .literal l => ofLiteral l
  | .zeroValue t => zeroOf t
  | .constant c =>
    match s.module.globalExpressions.get (s.module.constants.get c).init with
    | .literal l => ofLiteral l
    | .zeroValue t => zeroOf t
    | _ => .ok none
  | _ => .ok none

/-- How many parts can be reached by an index, where that is known. -/
def indexableLength? (types : Arena ShaderType) (shape : Shape) : Option Nat :=
  let target := match shape with
    | .pointer base _ => (types.get base).shape
    | other => other
  match target with
  | .vector n _ | .valuePointer (some n) _ _ => some n.count
  | .matrix c _ _ => some c.count
  | .array _ (.constant n) _ => some n
  | _ => none

def checkAccess (s : Scope) (base index : ExprId) : Check := do
  let shape := s.shapeOf base
  let restricted ← match shape with
    | .vector _ _ | .pointer _ _ | .valuePointer (some _) _ _ => .ok false
    | .matrix _ _ _ | .array _ _ _ => .ok true
    | _ => .error (.baseType base)
  match s.shapeOf index with
  | .scalar x => demand x.kind.isInteger (.indexType index)
  | _ => .error (.indexType index)
  let isConstant := match s.function.expressions.get index with
    | .literal _ | .zeroValue _ | .constant _ => true
    | _ => false
  demand (!restricted || isConstant) (.indexMustBeConstant base)
  match indexableLength? s.module.types shape, ← knownIndex s base index with
  | some n, some i => demand (i < n) (.indexOutOfBounds base i)
  | _, _ => .ok ()

def checkAccessIndex (s : Scope) (base : ExprId) (index : Nat) : Check := do
  let types := s.module.types
  let limitOf : Shape → Except ExpressionFault (Option Nat)
    | .vector n _ | .valuePointer (some n) _ _ => .ok (some n.count)
    | .matrix c _ _ => .ok (some c.count)
    | .array _ (.constant n) _ => .ok (some n)
    | .array _ .dynamic _ => .ok none
    | .struct members _ => .ok (some members.length)
    | _ => .error (.baseType base)
  let limit ← match s.shapeOf base with
    | .pointer target _ => limitOf (types.get target).shape
    | shape => limitOf shape
  match limit with
  | some n => demand (index < n) (.indexOutOfBounds base n)
  | none => .ok ()

/-- The type of a resource: that of a global variable or of an argument. -/
def resourceType (s : Scope) (e : ExprId) : Except ExpressionFault TypeId :=
  match s.function.expressions.get e with
  | .globalVariable g => .ok (s.module.globals.get g).type
  | .functionArgument i =>
    match s.function.arguments[i]? with
    | some a => .ok a.type
    | none => .error .expectedGlobalOrArgument
  | _ => .error .expectedGlobalOrArgument

def isFloatScalar : Shape → Bool
  | .scalar s => s.kind == .float
  | _ => false

def checkSample (s : Scope) (image sampler coordinate : ExprId) (arrayIndex : Option ExprId)
    (level : SampleLevel) (depthReference : Option ExprId) : Check := do
  let imageType ← resourceType s image
  let samplerType ← resourceType s sampler
  let comparison ← match s.module.shapeOf samplerType with
    | .sampler c => .ok c
    | _ => .error (.expectedSampler samplerType)
  match s.module.shapeOf imageType with
  | .image dim arrayed cls => do
    demand (arrayed == arrayIndex.isSome) .imageArrayIndex
    match arrayIndex with
    | some e =>
      match s.shapeOf e with
      | .scalar x => demand x.kind.isInteger (.imageArrayIndexType e)
      | _ => .error (.imageArrayIndexType e)
    | none => .ok ()
    let isDepth ← match cls with
      | .sampled .float false => .ok false
      | .depth false => .ok true
      | _ => .error (.imageClass cls)
    demand (comparison == depthReference.isSome && (!comparison || isDepth))
      (.comparisonSampling cls comparison depthReference.isSome)
    let coordinateFits := match dim, s.shapeOf coordinate with
      | .d1, .scalar x => x.kind == .float
      | .d2, .vector .two x => x.kind == .float
      | .d3, .vector .three x | .cube, .vector .three x => x.kind == .float
      | _, _ => false
    demand coordinateFits (.imageCoordinate dim coordinate)
    match depthReference with
    | some e => do
      demand (isFloatScalar (s.shapeOf e)) (.depthReference e)
      match level with
      | .automatic | .zero => .ok ()
      | _ => .error .depthSampleLevel
    | none => .ok ()
    match level with
    | .automatic | .zero => .ok ()
    | .exact e =>
      if isDepth then
        match s.shapeOf e with
        | .scalar x => demand x.kind.isInteger (.exactLevelType e)
        | _ => .error (.exactLevelType e)
      else demand (isFloatScalar (s.shapeOf e)) (.exactLevelType e)
    | .bias e => demand (isFloatScalar (s.shapeOf e)) (.biasType e)
  | _ => .error (.expectedImage imageType)

/-- Is an expression of a function valid? -/
def checkExpression (s : Scope) : Expression → Check
  | .literal l => checkLiteral l
  | .constant _ | .override _ | .zeroValue _ | .globalVariable _ | .localVariable _
  | .callResult _ => .ok ()
  | .compose t parts =>
    match checkCompose s.module.types t (parts.map s.infoOf) with
    | .ok () => .ok ()
    | .error f => .error (.compose f)
  | .access base index => checkAccess s base index
  | .accessIndex base index => checkAccessIndex s base index
  | .splat _ value =>
    match s.shapeOf value with
    | .scalar _ => .ok ()
    | _ => .error (.splatType value)
  | .swizzle size vector pattern =>
    match s.shapeOf vector with
    | .vector n _ =>
      match (pattern.take size.count).find? (·.index ≥ n.count) with
      | some c => .error (.swizzleComponent c n)
      | none => .ok ()
    | _ => .error (.vectorType vector)
  | .functionArgument i => demand (i < s.function.arguments.length) (.argumentMissing i)
  | .load pointer =>
    match s.shapeOf pointer with
    | .pointer base _ =>
      demand ((s.typeInfo[base]?.getD default).flags.hasAll ⟨[.sized, .data]⟩) (.pointerType pointer)
    | .valuePointer _ _ _ => .ok ()
    | _ => .error (.pointerType pointer)
  | .imageSample image sampler coordinate arrayIndex level depthReference =>
    checkSample s image sampler coordinate arrayIndex level depthReference
  | .unary op e => demand (unaryWorks op (s.shapeOf e)) (.unary op e)
  | .binary op l r =>
    demand (binaryWorks s.module.types op (s.shapeOf l) (s.shapeOf r)) (.binary op l r)
  | .select c a r => demand (selectWorks (s.shapeOf c) (s.shapeOf a) (s.shapeOf r)) .select
  | .derivative _ _ e => demand (isNumberShape [.float] (s.shapeOf e)) .derivative
  | .relational f e =>
    match f with
    | .all | .any =>
      match s.shapeOf e with
      | .vector _ x => demand (x.kind == .bool) (.truthVector e)
      | _ => .error (.truthVector e)
    | .isNan | .isInf => demand (isNumberShape [.float] (s.shapeOf e)) (.floatArgument e)
  | .math f args => checkMath s f args
  | .convert e kind width =>
    match (s.shapeOf e).scalar? with
    | none => .error .cast
    | some x =>
      match TypeInfo.checkWidth ⟨kind, width.getD x.width⟩ with
      | .ok () => .ok ()
      | .error _ => .error .cast
  | .arrayLength e =>
    match s.shapeOf e with
    | .pointer base _ =>
      match s.module.shapeOf base with
      | .array _ .dynamic _ => .ok ()
      | _ => .error (.arrayType e)
    | _ => .error (.arrayType e)

end Validity

end ShaderConvert.Ir
