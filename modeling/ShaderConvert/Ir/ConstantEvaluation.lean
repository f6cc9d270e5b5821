import ShaderConvert.Ir.LiteralArithmetic
import ShaderConvert.Number.Power

/-
Constant expressions computed where they are built.

`Evaluator.append` adds an expression to a list. If all of its operands are constants it adds the
value instead; which expressions may stay uncomputed depends on where they are (`Permission`). In a
function an expression that cannot be computed beforehand is simply added.

The evaluator also keeps the range of expressions that are waiting for an `emit`: a range ends where
an expression comes in that needs none.
-/
namespace ShaderConvert.Ir

/-- When the value of an expression is known. -/
inductive Evaluability where
  | constant
  | override
  | runtime
deriving Repr, DecidableEq, Inhabited

namespace Evaluability

def rank : Evaluability → Nat
  | constant => 0
  | override => 1
  | runtime => 2

def max (a b : Evaluability) : Evaluability := if a.rank < b.rank then b else a

end Evaluability

/-- Which expressions a place allows. -/
inductive Permission where
  | constant
  | override
  | runtime
deriving Repr, DecidableEq, Inhabited

/-- Expressions that are being built, and the statements that evaluate them. -/
structure Evaluator where
  permission : Permission
  types : Arena ShaderType
  constants : Arena Constant
  overrides : Arena Override
  /-- The expressions outside of functions, which the values of constants are among. -/
  globalExpressions : Arena Expression
  expressions : Arena Expression
  kinds : Array Evaluability
  /-- Where the waiting range starts. -/
  emitFrom : Option ExprId := none
  block : Block := .empty
deriving Inhabited

/-- The waiting expressions as a statement, if there are any. -/
def emitRange (expressions : Arena Expression) (first : ExprId) : List (Statement × Span) :=
  if first < expressions.size then
    let place := (List.range' first (expressions.size - first)).foldl
      (fun s i => s.cover (expressions.span i)) Span.undefined
    [(.emit first expressions.size, place)]
  else []

namespace Evaluator

abbrev Eval := StateT Evaluator (Except ConstantFault)

def fail {α : Type} (f : ConstantFault) : Eval α := throw f

def isRuntime : Eval Bool := do return (← get).permission == .runtime

def expression (e : ExprId) : Eval Expression := do return (← get).expressions.get e

def kindOf (e : ExprId) : Eval Evaluability := do return ((← get).kinds[e]?).getD .runtime

def shapeOf (t : TypeId) : Eval Shape := do return ((← get).types.get t).shape

/-- The place of an unnamed type. -/
def intern (shape : Shape) (place : Span) : Eval TypeId :=
  modifyGet fun s =>
    let t : ShaderType := ⟨none, shape⟩
    match s.types.findIdx? (· == t) with
    | some i => (i, s)
    | none => (s.types.size, { s with types := s.types.push t place })

/-- Adds an expression as it is. -/
def push (e : Expression) (place : Span) (kind : Evaluability) : Eval ExprId :=
  modifyGet fun s =>
    let index := s.expressions.size
    let added := s.expressions.push e place
    let s' := { s with expressions := added, kinds := s.kinds.push kind }
    match s.emitFrom with
    | some first =>
      if e.needsNoEmit then
        (index, { s' with
          block := s.block.append (.mk (emitRange s.expressions first)), emitFrom := some (index + 1) })
      else (index, s')
    | none => (index, s')

/-- Adds a value that has been computed. -/
def register (e : Expression) (place : Span) : Eval ExprId := do
  match e with
  | .literal l => liftM (m := Except ConstantFault) l.check
  | _ => pure ()
  push e place .constant

/-- The kind of an expression, which is that of its least known operand. -/
def kindOfExpression (e : Expression) : Eval Evaluability := do
  match e with
  | .literal _ | .zeroValue _ | .constant _ => return .constant
  | .override _ => return .override
  | .compose _ _ | .splat _ _ | .accessIndex _ _ | .access _ _ | .swizzle _ _ _ | .unary _ _
  | .binary _ _ _ | .math _ _ | .convert _ _ _ | .select _ _ _ | .relational _ _
  | .arrayLength _ =>
    e.operands.foldlM (fun k o => return k.max (← kindOf o)) .constant
  | _ => return .runtime

/-- Copies the value of a constant into the list that is being built. -/
def copyGlobal : Nat → ExprId → Eval ExprId
  | 0, _ => fail .notConstant
  | depth + 1, e => do
    let s ← get
    let place := s.globalExpressions.span e
    match s.globalExpressions.get e with
    | .compose t components => do
      let copies ← components.mapM (copyGlobal depth)
      register (.compose t copies) place
    | .splat n value => do register (.splat n (← copyGlobal depth value)) place
    | other => register other place

/-- An operand as a value. -/
def operand (e : ExprId) : Eval ExprId := do
  match ← expression e with
  | .constant c => do
    let s ← get
    let init := (s.constants.get c).init
    if s.permission == .runtime then copyGlobal (s.globalExpressions.size + 1) init else return init
  | _ =>
    if (← kindOf e) == .constant then return e else fail .notConstant

/-- A zero value written out as literals. -/
def writeZero (place : Span) : Nat → TypeId → Eval ExprId
  | 0, _ => fail .typeNotConstructible
  | depth + 1, t => do
    match ← shapeOf t with
    | .scalar s =>
      match Literal.zero? s with
      | some l => register (.literal l) place
      | none => fail .typeNotConstructible
    | .vector n s => do
      let part ← writeZero place depth (← intern (.scalar s) place)
      register (.compose t (List.replicate n.count part)) place
    | .matrix c r s => do
      let part ← writeZero place depth (← intern (.vector r s) place)
      register (.compose t (List.replicate c.count part)) place
    | .array base (.constant n) _ => do
      let part ← writeZero place depth base
      register (.compose t (List.replicate n part)) place
    | .struct members _ => do
      let parts ← members.mapM fun m => writeZero place depth m.type
      register (.compose t parts) place
    | _ => fail .typeNotConstructible

def zeroOf (t : TypeId) (place : Span) : Eval ExprId := do
  writeZero place ((← get).types.size + 4) t

/-- A repeated value written out as a vector. -/
def writeSplat (value : ExprId) (size : VectorSize) (place : Span) : Eval ExprId := do
  match ← expression value with
  | .literal l => do
    let t ← intern (.vector size l.scalar) place
    register (.compose t (List.replicate size.count value)) place
  | .zeroValue t =>
    match ← shapeOf t with
    | .scalar s => do register (.zeroValue (← intern (.vector size s) place)) place
    | _ => fail .splatScalarOnly
  | _ => fail .splatScalarOnly

/-- Zero values and repeated values written out. -/
def writeOut (e : ExprId) (place : Span) : Eval ExprId := do
  match ← expression e with
  | .zeroValue t => zeroOf t place
  | .splat n value => writeSplat value n place
  | _ => return e

/-- The components of a composite, with vectors inside a vector taken apart. -/
def flatten (t : TypeId) (components : List ExprId) : Eval (List ExprId) := do
  let s ← get
  return flattenComponents s.types s.expressions t components

/-- How many parts a value has, and the type of each. -/
def partOf? (shape : Shape) (index : Nat) : Option (Option Resolved) :=
  match shape with
  | .vector n s => some (if index < n.count then some (.shape (.scalar s)) else none)
  | .matrix c r s => some (if index < c.count then some (.shape (.vector r s)) else none)
  | .array base (.constant n) _ => some (if index < n then some (.named base) else none)
  | .struct members _ => some (members[index]?.map fun m => .named m.type)
  | _ => none

def access (base : ExprId) (index : Nat) (place : Span) : Eval ExprId := do
  match ← expression base with
  | .zeroValue t =>
    match partOf? (← shapeOf t) index with
    | some (some (.named p)) => register (.zeroValue p) place
    | some (some (.shape p)) => do register (.zeroValue (← intern p place)) place
    | _ => fail .accessBase
  | .splat n value => if index ≥ n.count then fail .accessBase else return value
  | .compose t components =>
    match partOf? (← shapeOf t) 0 with
    | none => fail .accessBase
    | some _ =>
      match (← flatten t components)[index]? with
      | some part => return part
      | none => fail .accessIndex
  | _ => fail .accessBase

def swizzle (size : VectorSize) (vector : ExprId) (pattern : List SwizzleComponent) (place : Span) :
    Eval ExprId := do
  let resultType (t : TypeId) : Eval TypeId := do
    match ← shapeOf t with
    | .vector _ s => intern (.vector size s) place
    | _ => fail .swizzleVectorOnly
  match ← expression vector with
  | .zeroValue t => do register (.zeroValue (← resultType t)) place
  | .splat _ value => register (.splat size value) place
  | .compose t components => do
    let goal ← resultType t
    let parts ← flatten t components
    let chosen ← (pattern.take size.count).mapM fun c =>
      match parts[c.index]? with
      | some p => (pure p : Eval ExprId)
      | none => fail .swizzleOutOfBounds
    register (.compose goal chosen) place
  | _ => fail .swizzleVectorOnly

/-- A value as a value of another scalar. -/
def cast (goal : Scalar) : Nat → ExprId → Span → Eval ExprId
  | 0, _, _ => fail .notConstant
  | depth + 1, e, place => do
    let e ← match ← expression e with
      | .zeroValue t => zeroOf t place
      | _ => pure e
    let refuse : Eval ExprId := fail (.castArgument s!"[{e}]" goal.sourceName)
    match ← expression e with
    | .literal l =>
      match ← liftM (m := Except ConstantFault) (l.cast? goal) with
      | some l' => register (.literal l') place
      | none => fail (.castArgument (s!"[{e}] Literal(" ++ l.debugText ++ ")") goal.sourceName)
    | .compose t components => do
      let shape ← shapeOf t
      match shape with
      | .vector _ _ | .matrix _ _ _ => do
        let parts ← components.mapM fun p => cast goal depth p place
        let t' ← intern (shape.withScalar goal) place
        register (.compose t' parts) place
      | _ => refuse
    | .splat n value => do
      let inner := (← get).expressions.span value
      register (.splat n (← cast goal depth value inner)) place
    | _ => refuse

/-- The shape of a value, as far as it is written out. -/
def typeOfValue (e : ExprId) : Eval Resolved := do
  match ← expression e with
  | .literal l => return .shape (.scalar l.scalar)
  | .compose t _ | .zeroValue t => return .named t
  | .constant c => return .named ((← get).constants.get c).type
  | .splat n v =>
    match ← expression v with
    | .literal l => return .shape (.vector n l.scalar)
    | _ => fail .splatScalarOnly
  | _ => fail .notConstant

/-- Like `cast`, through arrays. -/
def castArray (goal : Scalar) : Nat → ExprId → Span → Eval ExprId
  | 0, _, _ => fail .notConstant
  | depth + 1, e, place => do
    let e ← operand e
    match ← expression e with
    | .compose t components =>
      match ← shapeOf t with
      | .array _ size _ => do
        let parts ← components.mapM fun p => castArray goal depth p place
        let base ← match ← typeOfValue (parts.headD 0) with
          | .named b => pure b
          | .shape s => intern s place
        let stride := (← shapeOf base).size
        let t' ← intern (.array base size stride) place
        register (.compose t' parts) place
      | _ => cast goal 8 e place
    | _ => cast goal 8 e place

def unary (op : UnaryOperator) : Nat → ExprId → Span → Eval ExprId
  | 0, _, _ => fail .unaryArgument
  | depth + 1, e, place => do
    let e ← writeOut e place
    match ← expression e with
    | .literal l => do register (.literal (← liftM (m := Except ConstantFault) (l.unary op))) place
    | .compose t components =>
      match ← shapeOf t with
      | .vector _ _ | .matrix _ _ _ => do
        let parts ← components.mapM fun p => unary op depth p place
        register (.compose t parts) place
      | _ => fail .unaryArgument
    | _ => fail .unaryArgument

/-- The type of a componentwise result: comparisons give truth values. -/
def resultTypeOf (op : BinaryOperator) (size : VectorSize) (t : TypeId) (place : Span) :
    Eval TypeId :=
  if op.isComparison then intern (.vector size .bool) place else return t

def binary (op : BinaryOperator) : Nat → ExprId → ExprId → Span → Eval ExprId
  | 0, _, _, _ => fail .binaryArguments
  | depth + 1, left, right, place => do
    let left ← writeOut left place
    let right ← writeOut right place
    match ← expression left, ← expression right with
    | .literal a, .literal b => do
      register (.literal (← liftM (m := Except ConstantFault) (Literal.binary op a b))) place
    | .compose t parts, .literal _ => do
      let parts ← parts.mapM fun p => binary op depth p right place
      register (.compose t parts) place
    | .literal _, .compose t parts => do
      let parts ← parts.mapM fun p => binary op depth left p place
      register (.compose t parts) place
    | .compose t parts, .compose t' parts' => do
      let pairs := (← flatten t parts).zip (← flatten t' parts')
      match ← shapeOf t, ← shapeOf t' with
      | .vector m _, .vector n _ =>
        if m = n then do
          let results ← pairs.mapM fun (a, b) => binary op depth a b place
          register (.compose (← resultTypeOf op m t place) results) place
        else fail .binaryArguments
      | _, _ => fail .binaryArguments
    | _, _ => fail .binaryArguments

/-- A function of numbers applied to literals of one type. -/
def mathOfLiterals (f : MathFunction) (args : List Literal) : Except ConstantFault Literal :=
  match f, args with
  | .abs, [.i32 n] => .ok (.i32 (Literal.wrapSigned 32 n.natAbs))
  | .abs, [.u32 n] => .ok (.u32 n)
  | .abs, [.f32 b] => .ok (.f32 (b % twoTo 31))
  | .abs, [.abstractInt n] => .ok (.abstractInt (Literal.wrapSigned 64 n.natAbs))
  | .abs, [.abstractFloat b] => .ok (.abstractFloat (b % twoTo 63))
  | .min, [a, b] => if a.scalar = b.scalar then .ok (if b.less a then b else a) else refuse
  | .max, [a, b] => if a.scalar = b.scalar then .ok (if a.less b then b else a) else refuse
  | .clamp, [x, low, high] =>
    if x.scalar = low.scalar ∧ low.scalar = high.scalar then
      if high.less low then .error .clampRange
      else .ok (if x.less low then low else if high.less x then high else x)
    else refuse
  | .floor, [a] => wholePart Number.Fraction.floor a
  | .ceil, [a] => wholePart Number.Fraction.ceil a
  | .trunc, [a] => wholePart Number.Fraction.truncate a
  | .round, [a] => wholePart Number.Fraction.nearest a
  | _, _ => .error (.notImplemented (f.title ++ " built-in function"))
where
  refuse : Except ConstantFault Literal := .error .mathArgument
  /-- A whole number with the sign of the argument. -/
  wholePart (part : Number.Fraction → Int) : Literal → Except ConstantFault Literal
    | .f32 b =>
      let x := Number.single.fraction b
      .ok (.f32 (Number.single.round x.negative (part x).natAbs 1))
    | .abstractFloat b =>
      let x := Number.double.fraction b
      .ok (.abstractFloat (Number.double.round x.negative (part x).natAbs 1))
    | _ => .error .mathArgument

def literalsOf? (es : List Expression) : Option (List Literal) :=
  es.mapM fun
    | .literal l => some l
    | _ => none

/-- A component of a vector that is taken apart. -/
def componentAt (index : Nat) (components : List ExprId) : Eval ExprId :=
  match components[index]? with
  | some c => return c
  | none => fail (.missingComponent components.length index)

/-- A function of numbers applied to literals, or to vectors of them component by component. -/
def math (f : MathFunction) : Nat → List ExprId → Span → Eval ExprId
  | 0, _, _ => fail .mathArgument
  | depth + 1, args, place => do
    if args.length ≠ f.argumentCount then
      fail (.mathArgumentCount f f.argumentCount args.length)
    else
      let args ← args.mapM fun a => writeOut a place
      let values ← args.mapM expression
      match literalsOf? values with
      | some ls => do
        register (.literal (← liftM (m := Except ConstantFault) (mathOfLiterals f ls))) place
      | none =>
        match values with
        | .compose t _ :: _ =>
          match ← shapeOf t with
          | .vector n _ => do
            let columns ← values.mapM fun
              | .compose t' parts => do
                if t' = t then flatten t parts else fail .mathArgument
              | _ => (fail .mathArgument : Eval (List ExprId))
            let results ← (List.range n.count).mapM fun i => do
              math f depth (← columns.mapM (componentAt i)) place
            register (.compose t results) place
          | _ => fail .mathArgument
        | _ => fail .mathArgument

/-- The value of an index that is known. -/
def indexValue? (e : ExprId) : Eval (Option Nat) := do
  match ← expression e with
  | .literal (.u32 n) => return some n
  | .literal (.i32 n) => return if n ≥ 0 then some n.toNat else none
  | .literal (.abstractInt n) => return if 0 ≤ n ∧ n < (twoTo 32 : Int) then some n.toNat else none
  | .zeroValue t =>
    match ← shapeOf t with
    | .scalar s => return if s.kind == .sint || s.kind == .uint then some 0 else none
    | _ => return none
  | _ => return none

/-- The value of an expression whose operands are constants. -/
def evaluate (e : Expression) (place : Span) : Eval ExprId := do
  match e with
  | .constant c =>
    if (← isRuntime) then register e place else return ((← get).constants.get c).init
  | .literal _ | .zeroValue _ => register e place
  | .override _ => fail .override
  | .compose t components => do register (.compose t (← components.mapM operand)) place
  | .splat n value => do register (.splat n (← operand value)) place
  | .accessIndex base index => do access (← operand base) index place
  | .access base index => do
    let base ← operand base
    match ← indexValue? (← operand index) with
    | some i => access base i place
    | none => fail .accessIndexType
  | .swizzle n vector pattern => do swizzle n (← operand vector) pattern place
  | .unary op x => do unary op 8 (← operand x) place
  | .binary op l r => do
    let l ← operand l
    let r ← operand r
    binary op 8 l r place
  | .math f args => do math f 4 (← args.mapM operand) place
  | .convert x kind width => do
    let x ← operand x
    match width with
    | some w => cast ⟨kind, w⟩ 8 x place
    | none => fail (.notImplemented "bitcast built-in function")
  | .select _ _ _ => fail (.notImplemented "select built-in function")
  | .relational f _ => fail (.notImplemented (f.title ++ " built-in function"))
  | .arrayLength _ => fail .arrayLength
  | _ => fail .notConstant

/-- Runs a computation; what it did is undone if it fails in a way that is let pass. -/
def attempt (x : Eval ExprId) (pardon : ConstantFault → Bool) (otherwise : Eval ExprId) :
    Eval ExprId := fun s =>
  match x s with
  | .ok r => .ok r
  | .error f => if pardon f then otherwise s else .error f

/-- Failures that only mean that an expression is not computed beforehand. -/
def isShortcoming : ConstantFault → Bool
  | .notImplemented _ | .binaryArguments => true
  | _ => false

/-- Adds an expression, or its value. -/
def append (e : Expression) (place : Span) : Eval ExprId := do
  match ← kindOfExpression e, (← get).permission with
  | .constant, .runtime => attempt (evaluate e place) isShortcoming (push e place .runtime)
  | .constant, _ => evaluate e place
  | .override, .constant => fail .overrideExpression
  | .override, _ => push e place .override
  | .runtime, .runtime => push e place .runtime
  | .runtime, _ => fail .runtimeExpression

end Evaluator

end ShaderConvert.Ir
