import ShaderConvert.Spirv.Emission.Access
import ShaderConvert.Spirv.ExtendedSet

/-
Expressions as instructions.

`evaluate` gives an expression its id. Constants are declared once for the module; what only points
somewhere is written where it is used.
-/
namespace ShaderConvert.Spirv.Emission

open Ir

/-- Which expressions are constants of the module. -/
def constnessOf (es : Arena Expression) : Array Bool :=
  es.toList.foldl (fun known e =>
    known.push (match e with
      | .literal _ | .zeroValue _ | .constant _ => true
      | .compose _ parts => parts.all fun p => known[p]?.getD false
      | .splat _ value => known[value]?.getD false
      | _ => false)) #[]

def isConstant (e : ExprId) : E Bool := do return (← get).current.constness[e]?.getD false

/-- The number of an instruction of the arithmetic set. -/
def arithmeticNumber (name : String) : Nat :=
  ((ExtendedSet.shading.byName? name).map (·.number)).getD 0

/-- Repeats an id for every component. -/
def repeated (size : VectorSize) (id : Nat) : List Nat := List.replicate size.count id

/-- A vector times a scalar. Whole numbers have no instruction for it. -/
def emitScaling (type id : Nat) (size : VectorSize) (kind : ScalarKind) (vector scalar : Nat) :
    E Unit := do
  match kind with
  | .float => push Code.vectorTimesScalar [type, id, vector, scalar]
  | _ => do
    let wide ← pushValue Code.compositeConstruct type (repeated size scalar)
    push Code.iMul [type, id, vector, wide]

/-- Two matrices column by column. -/
def emitColumns (type id : Nat) (columns rows : VectorSize) (s : Scalar) (code left right : Nat) :
    E Unit := do
  let vector ← valueTypeId (some rows) s none
  let results ← (List.range columns.count).mapM fun i => do
    let a ← freshId
    let b ← freshId
    let r ← freshId
    push Code.compositeExtract [vector, a, left, i]
    push Code.compositeExtract [vector, b, right, i]
    push code [vector, r, a, b]
    return r
  push Code.compositeConstruct (type :: id :: results)

/-- The instruction of an operator on numbers of a kind. -/
def binaryCode (op : BinaryOperator) (kind : ScalarKind) : Nat :=
  let byKind (signed unsigned float : Nat) : Nat := match kind with
    | .sint => signed
    | .float => float
    | _ => unsigned
  match op with
  | .add => byKind Code.iAdd Code.iAdd Code.fAdd
  | .subtract => byKind Code.iSub Code.iSub Code.fSub
  | .multiply => byKind Code.iMul Code.iMul Code.fMul
  | .divide => byKind Code.sDiv Code.uDiv Code.fDiv
  | .modulo => byKind Code.sRem Code.uMod Code.fRem
  | .equal => if kind = .bool then Code.logicalEqual else byKind Code.iEqual Code.iEqual Code.fOrdEqual
  | .notEqual =>
    if kind = .bool then Code.logicalNotEqual
    else byKind Code.iNotEqual Code.iNotEqual Code.fOrdNotEqual
  | .less => byKind Code.sLessThan Code.uLessThan Code.fOrdLessThan
  | .lessEqual => byKind Code.sLessThanEqual Code.uLessThanEqual Code.fOrdLessThanEqual
  | .greater => byKind Code.sGreaterThan Code.uGreaterThan Code.fOrdGreaterThan
  | .greaterEqual => byKind Code.sGreaterThanEqual Code.uGreaterThanEqual Code.fOrdGreaterThanEqual
  | .and => if kind = .bool then Code.logicalAnd else Code.bitwiseAnd
  | .exclusiveOr => Code.bitwiseXor
  | .inclusiveOr => if kind = .bool then Code.logicalOr else Code.bitwiseOr
  | .logicalAnd => Code.logicalAnd
  | .logicalOr => Code.logicalOr
  | .shiftLeft => Code.shiftLeftLogical
  | .shiftRight => byKind Code.shiftRightArithmetic Code.shiftRightLogical Code.shiftRightLogical

def emitBinary (type : Nat) (op : BinaryOperator) (left right : ExprId) : E Nat := do
  let id ← freshId
  let l ← idOf left
  let r ← idOf right
  let ls ← shapeOf left
  let rs ← shapeOf right
  let kind := ls.scalarKind?.getD .float
  match op, ls, rs with
  | .add, .matrix c rows s, _ => emitColumns type id c rows s Code.fAdd l r
  | .subtract, .matrix c rows s, _ => emitColumns type id c rows s Code.fSub l r
  | .multiply, .scalar _, .vector n s => emitScaling type id n s.kind r l
  | .multiply, .vector n s, .scalar _ => emitScaling type id n s.kind l r
  | .multiply, .vector _ _, .matrix _ _ _ => push Code.vectorTimesMatrix [type, id, l, r]
  | .multiply, .matrix _ _ _, .scalar _ => push Code.matrixTimesScalar [type, id, l, r]
  | .multiply, .scalar _, .matrix _ _ _ => push Code.matrixTimesScalar [type, id, r, l]
  | .multiply, .matrix _ _ _, .vector _ _ => push Code.matrixTimesVector [type, id, l, r]
  | .multiply, .matrix _ _ _, .matrix _ _ _ => push Code.matrixTimesMatrix [type, id, l, r]
  | _, _, _ => push (binaryCode op kind) [type, id, l, r]
  return id

def unaryCode (op : UnaryOperator) (kind : ScalarKind) : Nat :=
  match op with
  | .negate => if kind = .float then Code.fNegate else Code.sNegate
  | .logicalNot => Code.logicalNot
  | .bitwiseNot => Code.not

/-- Zero or one of a scalar. -/
def smallLiteral (n : Nat) (s : Scalar) : Literal :=
  match s.kind, s.width with
  | .sint, 8 => .i64 n
  | .sint, _ => .i32 n
  | .uint, 8 => .u64 n
  | .uint, _ => .u32 n
  | .float, 8 => .f64 (if n = 0 then 0 else 0x3FF0000000000000)
  | .bool, _ => .bool (n ≠ 0)
  | _, _ => .f32 (if n = 0 then 0 else 0x3F800000)

/-- A small number as a scalar or in every component of a vector. -/
def smallId (size : Option VectorSize) (s : Scalar) (scalarId : Nat) : E Nat :=
  match size with
  | some n => compositeId (.value size s none) (repeated n scalarId)
  | none => return scalarId

/-- How a value becomes one of another kind. -/
inductive Cast where
  | identity
  | plain (code : Nat)
  | notZero (code : Nat)
  | choose

def castOf (source : Scalar) (kind : ScalarKind) (width : Option Nat) : Cast :=
  let widens := width.any (· ≠ source.width)
  if source.kind = kind ∧ !widens then .identity
  else if source.kind = .bool ∧ kind = .bool then .plain Code.copyObject
  else if width.isNone then .plain Code.bitcast
  else if kind = .bool then
    .notZero (if source.kind = .float then Code.fUnordNotEqual else Code.iNotEqual)
  else
    match source.kind, kind with
    | .bool, _ => .choose
    | .float, .uint => .plain Code.convertFToU
    | .float, .sint => .plain Code.convertFToS
    | .float, .float => .plain Code.fConvert
    | .sint, .float => .plain Code.convertSToF
    | .uint, .float => .plain Code.convertUToF
    | .sint, .sint | .uint, .sint => .plain (if widens then Code.sConvert else Code.bitcast)
    | .uint, .uint | .sint, .uint => .plain (if widens then Code.uConvert else Code.bitcast)
    | _, _ => .plain Code.bitcast

def emitCast (type : Nat) (e : ExprId) (kind : ScalarKind) (width : Option Nat) : E Nat := do
  let x ← idOf e
  let shape ← shapeOf e
  let size := match shape with
    | .vector n _ => some n
    | _ => none
  let source := shape.scalar?.getD .f32
  let isMatrix := match shape with
    | .matrix _ _ _ => true
    | _ => false
  if isMatrix then pushValue Code.copyObject type [x]
  else
    match castOf source kind width with
    | .identity => return x
    | .plain code => pushValue code type [x]
    | .notZero code => do
      let zeroId ← smallId size source (← literalId (smallLiteral 0 source))
      pushValue code type [x, zeroId]
    | .choose => do
      let goal : Scalar := ⟨kind, width.getD source.width⟩
      let zeroScalar ← literalId (smallLiteral 0 goal)
      let oneScalar ← literalId (smallLiteral 1 goal)
      let zeroId ← smallId size goal zeroScalar
      let oneId ← smallId size goal oneScalar
      pushValue Code.select type [x, oneId, zeroId]

def emitSelect (type : Nat) (condition accept reject : ExprId) : E Nat := do
  let id ← freshId
  let c ← idOf condition
  let a ← idOf accept
  let r ← idOf reject
  let c ← match ← shapeOf condition, ← shapeOf accept with
    | .scalar _, .vector n _ => do
      let wide ← valueTypeId (some n) .bool none
      pushValue Code.compositeConstruct wide (repeated n c)
    | _, _ => pure c
  push Code.select [type, id, c, a, r]
  return id

/-- The id of a resource that a global variable or an argument is. -/
def resourceId (e : ExprId) : E Nat := do
  let d ← get
  match ← expressionAt e with
  | .globalVariable g => return (d.globals[g]?.getD default).handle
  | .functionArgument i => return (d.current.arguments[i]?.getD (0, 0)).2
  | _ => fail (.notValidated "image expression")

/-- The coordinates of a sample, with the layer of an arrayed image behind them. -/
def emitCoordinates (coordinate : ExprId) (arrayIndex : Option ExprId) : E Nat := do
  let c ← idOf coordinate
  match arrayIndex with
  | none => return c
  | some a => do
    let shape ← shapeOf coordinate
    let s := shape.scalar?.getD .f32
    let size : VectorSize := match shape with
      | .vector .two _ => .three
      | .vector _ _ => .four
      | _ => .two
    let layer ← idOf a
    let code := match (← shapeOf a).scalarKind? with
      | some .sint => Code.convertSToF
      | _ => Code.convertUToF
    let component ← valueTypeId none s none
    let layer ← pushValue code component [layer]
    let wide ← valueTypeId (some size) s none
    pushValue Code.compositeConstruct wide [c, layer]

def emitSample (type : Nat) (image sampler coordinate : ExprId) (arrayIndex : Option ExprId)
    (level : SampleLevel) (depthReference : Option ExprId) : E Nat := do
  let imageId ← resourceId image
  let imageKey ← typeKeyOf image
  let isDepth := match ← shapeOf image with
    | .image _ _ (.depth _) => true
    | _ => false
  let imageType ← typeId imageKey
  let samplerId ← resourceId sampler
  let combinedType ← typeId (.sampledImage imageType)
  let combined ← pushValue Code.sampledImage combinedType [imageId, samplerId]
  let id ← freshId
  -- a depth image gives four components unless it is compared
  let needsFirst := isDepth && depthReference.isNone
  let sampleType ← if needsFirst then valueTypeId (some .four) .f32 none else pure type
  let coordinates ← emitCoordinates coordinate arrayIndex
  let depth ← depthReference.mapM idOf
  let emit (explicit : Bool) (extra : List Nat) : E Unit :=
    let code := match depth, explicit with
      | none, false => Code.imageSampleImplicitLod
      | none, true => Code.imageSampleExplicitLod
      | some _, false => Code.imageSampleDrefImplicitLod
      | some _, true => Code.imageSampleDrefExplicitLod
    push code ([sampleType, id, combined, coordinates] ++ depth.toList ++ extra)
  match level with
  | .automatic => emit false []
  | .zero => do emit true [2, ← literalId (.f32 0)]
  | .exact e => do
    let l ← idOf e
    let l ←
      if isDepth then do pushValue Code.convertUToF (← valueTypeId none .f32 none) [l] else pure l
    emit true [2, l]
  | .bias e => do emit false [1, ← idOf e]
  if needsFirst then pushValue Code.compositeExtract type [id, 0] else return id

/-- The instruction of the arithmetic set for a function of numbers of a kind, if there is one. -/
def arithmeticOf? (f : MathFunction) (kind : ScalarKind) : Option String :=
  let byKind (signed unsigned float : String) : Option String := match kind with
    | .sint => some signed
    | .uint => some unsigned
    | _ => some float
  match f with
  | .abs => if kind = .uint then none else byKind "SAbs" "" "FAbs"
  | .min => byKind "SMin" "UMin" "FMin"
  | .max => byKind "SMax" "UMax" "FMax"
  | .clamp => byKind "SClamp" "UClamp" "FClamp"
  | .cos => some "Cos" | .cosh => some "Cosh" | .sin => some "Sin" | .sinh => some "Sinh"
  | .tan => some "Tan" | .tanh => some "Tanh" | .acos => some "Acos" | .asin => some "Asin"
  | .atan => some "Atan" | .atan2 => some "Atan2" | .asinh => some "Asinh"
  | .acosh => some "Acosh" | .atanh => some "Atanh" | .radians => some "Radians"
  | .degrees => some "Degrees" | .ceil => some "Ceil" | .floor => some "Floor"
  | .round => some "RoundEven" | .fract => some "Fract" | .trunc => some "Trunc"
  | .ldexp => some "Ldexp" | .exp => some "Exp" | .exp2 => some "Exp2" | .log => some "Log"
  | .log2 => some "Log2" | .pow => some "Pow" | .cross => some "Cross"
  | .distance => some "Distance" | .length => some "Length" | .normalize => some "Normalize"
  | .faceForward => some "FaceForward" | .reflect => some "Reflect"
  | .refract => some "Refract" | .sign => byKind "SSign" "SSign" "FSign" | .fma => some "Fma"
  | .mix => some "FMix" | .step => some "Step" | .smoothStep => some "SmoothStep"
  | .sqrt => some "Sqrt" | .inverseSqrt => some "InverseSqrt" | .inverse => some "MatrixInverse"
  | .determinant => some "Determinant" | .firstTrailingBit => some "FindILsb"
  | .firstLeadingBit => byKind "FindSMsb" "FindUMsb" "FindUMsb"
  | _ => none

/-- The sum of products of whole numbers. -/
def emitWholeDot (type id : Nat) (count left right : Nat) : E Unit := do
  let start ← nullId type
  discard ((List.range count).foldlM (fun sum i => do
    let a ← pushValue Code.compositeExtract type [left, i]
    let b ← pushValue Code.compositeExtract type [right, i]
    let product ← pushValue Code.iMul type [a, b]
    let next ← if i + 1 = count then pure id else freshId
    push Code.iAdd [type, next, sum, product]
    return next) start)

def emitMath (type : Nat) (f : MathFunction) (args : List ExprId) : E Nat := do
  let ids ← args.mapM idOf
  let shape ← shapeOf (args.headD 0)
  let kind := shape.scalarKind?.getD .float
  let first := ids.headD 0
  let second := ids[1]?.getD 0
  let id ← freshId
  let call (name : String) (operands : List Nat) : E Unit :=
    push Code.extInst ([type, id, arithmeticSet, arithmeticNumber name] ++ operands)
  match f with
  | .saturate => do
    let size := match shape with
      | .vector n _ => some n
      | _ => none
    let s := shape.scalar?.getD .f32
    let zeroScalar ← literalId (smallLiteral 0 s)
    let oneScalar ← literalId (smallLiteral 1 s)
    let zeroId ← smallId size s zeroScalar
    let oneId ← smallId size s oneScalar
    call "FClamp" [first, zeroId, oneId]
  | .abs => if kind = .uint then push Code.copyObject [type, id, first] else
    call (if kind = .sint then "SAbs" else "FAbs") ids
  | .dot =>
    match shape, kind with
    | _, .float => push Code.dot [type, id, first, second]
    | .vector n _, _ => emitWholeDot type id n.count first second
    | _, _ => fail (.notValidated "dot")
  | .outer => push Code.outerProduct [type, id, first, second]
  | .transpose => push Code.transpose [type, id, first]
  | .reverseBits => push Code.bitReverse [type, id, first]
  | .countOneBits => push Code.bitCount [type, id, first]
  | .mix => do
    let selector := ids[2]?.getD 0
    let selector ← match shape, ← shapeOf (args[2]?.getD 0) with
      | .vector n _, .scalar _ => pushValue Code.compositeConstruct type (repeated n selector)
      | _, _ => pure selector
    call "FMix" [first, second, selector]
  | _ =>
    match arithmeticOf? f kind with
    | some name => call name ids
    | none => fail (.unimplemented (f.title ++ " function"))
  return id

def derivativeCode : DerivativeAxis → DerivativeControl → Nat
  | .x, .none => Code.dPdx
  | .x, .fine => Code.dPdxFine
  | .x, .coarse => Code.dPdxCoarse
  | .y, .none => Code.dPdy
  | .y, .fine => Code.dPdyFine
  | .y, .coarse => Code.dPdyCoarse
  | .width, .none => Code.fwidth
  | .width, .fine => Code.fwidthFine
  | .width, .coarse => Code.fwidthCoarse

def relationalCode : RelationalFunction → Nat
  | .all => Code.all
  | .any => Code.any
  | .isNan => Code.isNan
  | .isInf => Code.isInf

/-- The id of an expression, after the instructions that give it its value. -/
def emitExpression (e : ExprId) (type : Nat) : E Nat := do
  let d ← get
  match ← expressionAt e with
  | .literal l => literalId l
  | .constant c => return d.constantIds[(d.module.constants.get c).init]?.getD 0
  | .override _ => fail .overrides
  | .zeroValue _ => nullId type
  | .compose t parts =>
    if ← isConstant e then do
      let flat := flattenComponents d.module.types d.current.function.expressions t parts
      compositeId (.named t) (← flat.mapM idOf)
    else do pushValue Code.compositeConstruct type (← parts.mapM idOf)
  | .splat n value => do
    let parts := repeated n (← idOf value)
    if ← isConstant e then compositeId (← typeKeyOf e) parts
    else pushValue Code.compositeConstruct type parts
  | .access base index => do
    match ← shapeOf base with
    | .pointer _ _ | .valuePointer _ _ _ => return 0
    | .vector _ _ => vectorComponent type base index
    | _ => fail (.notValidated "only vectors may be dynamically indexed by value")
  | .accessIndex base index => do
    match ← shapeOf base with
    | .pointer _ _ | .valuePointer _ _ _ => return 0
    | _ => do pushValue Code.compositeExtract type [← idOf base, index]
  | .swizzle n vector pattern => do
    let v ← idOf vector
    pushValue Code.vectorShuffle type ([v, v] ++ (pattern.take n.count).map (·.index))
  | .functionArgument i => return (d.current.arguments[i]?.getD (0, 0)).1
  | .globalVariable g => return (d.globals[g]?.getD default).access
  | .localVariable v => return d.current.locals[v]?.getD 0
  | .load pointer => emitLoad type pointer
  | .imageSample image sampler coordinate arrayIndex level depthReference =>
    emitSample type image sampler coordinate arrayIndex level depthReference
  | .unary op x => do
    let id ← freshId
    push (unaryCode op ((← shapeOf x).scalarKind?.getD .sint)) [type, id, ← idOf x]
    return id
  | .binary op l r => emitBinary type op l r
  | .select c a r => emitSelect type c a r
  | .derivative axis control x => do
    let id ← freshId
    if control ≠ .none then requireCapability 51
    push (derivativeCode axis control) [type, id, ← idOf x]
    return id
  | .relational f x => do pushValue (relationalCode f) type [← idOf x]
  | .math f args => emitMath type f args
  | .convert x kind width => emitCast type x kind width
  | .callResult _ => idOf e
  | .arrayLength a => runtimeLength a

/-- Evaluates an expression that is used or named. -/
def evaluate (e : ExprId) : E Unit := do
  let f := (← get).current
  if f.info.referencesTo e = 0 && !(f.function.namedExpressions.any (·.1 = e)) then return ()
  else do
    let type ← resolvedTypeId (← resolvedOf e)
    setId e (← emitExpression e type)

end ShaderConvert.Spirv.Emission
