import ShaderConvert.Wgsl.Lowering.Construct

/-
Expressions and calls.
-/
namespace ShaderConvert.Wgsl.Lowering

open Ir
open Ast (Expr TypeExpr Ident)

def literalOfNumeral : Numeral → Literal
  | .abstractInt n => .abstractInt n
  | .abstractFloat b => .abstractFloat b
  | .i32 n => .i32 n
  | .u32 n => .u32 n
  | .i64 n => .i64 n
  | .u64 n => .u64 n
  | .f32 b => .f32 b
  | .f64 b => .f64 b

def literalOfAst : Ast.Lit → Literal
  | .number n => literalOfNumeral n
  | .bool b => .bool b

/-- A name. -/
def lowerIdent (name : String) (slot : Option Nat) (place : Span) : L Typed := do
  match slot with
  | some k => do
    requireRuntime place
    return ((← get).draft.slots.lookup k).getD default
  | none => do
    let s ← get
    match s.names.lookup name with
    | none => fail (.unknownIdentifier place name)
    | some (.var g) => do
      let e ← append (.globalVariable g) place
      return if (s.module.globals.get g).space = .handle then .plain e else .reference e
    | some (.const c) => do return .plain (← append (.constant c) place)
    | some (.override o) => do return .plain (← append (.override o) place)
    | some _ => fail (.unexpected place .variableAccess)

/-- A scalar next to a vector becomes a vector. -/
def spread (op : BinaryOperator) (l r : ExprId) : L (ExprId × ExprId) := do
  match op with
  | .add | .subtract | .divide | .modulo =>
    match ← shapeOf l, ← shapeOf r with
    | .vector n _, .scalar _ => do return (l, ← append (.splat n r) (← placeOf r))
    | .scalar _, .vector n _ => do return (← append (.splat n l) (← placeOf l), r)
    | _, _ => return (l, r)
  | _ => return (l, r)

def lowerBinary (p : Parts) (op : BinaryOperator) (left right : Expr) (place : Span) :
    L Expression := do
  let l ← p.abstract left
  let r ← p.abstract right
  let (l, r) ← spread op l r
  if op.isShift then
    let r ← convertLeafTo r .u32 place
    return .binary op l r
  else
    match ← consensus [l, r] with
    | .ok s => do
      let l ← convertToLeaf s l
      let r ← convertToLeaf s r
      return .binary op l r
    | .error _ => return .binary op l r

/-- The address of a component of a vector cannot be taken. -/
def lowerAddressOf (p : Parts) (operand : Expr) (place : Span) : L Typed := do
  match ← p.reference operand with
  | .plain _ => fail (.notReference "the operand of the `&` operator" place)
  | .reference e => do
    requireRuntime place
    let base? := match (← expressions).get e with
      | .access b _ | .accessIndex b _ => some b
      | _ => none
    match base? with
    | none => return .plain e
    | some b => do
      match ← shapeOf b with
      | .pointer t _ =>
        match (← get).module.shapeOf t with
        | .vector _ _ => do fail (.vectorComponentAddress (← placeOf e))
        | _ => return .plain e
      | .valuePointer (some _) _ _ => do fail (.vectorComponentAddress (← placeOf e))
      | _ => return .plain e

def lowerDeref (p : Parts) (operand : Expr) (place : Span) : L Typed := do
  let e ← p.value operand
  match (← shapeOf e).space? with
  | some _ => return .reference e
  | none => fail (.notPointer place)

/-- The value of an index that is a constant. -/
def constantIndex? (e : ExprId) : L (Option Nat) := do
  let s ← get
  match s.permission with
  | .runtime =>
    if (s.draft.kinds[e]?).getD .runtime == .constant then
      return (countOf s.module s.draft.expressions e).toOption
    else return none
  | .constant => return (countOf s.module s.module.globalExpressions e).toOption
  | .override => return none

def lowerIndex (p : Parts) (base index : Expr) : L (Typed × Expression) := do
  let b ← p.reference base
  let i ← p.value index
  match b with
  | .plain e =>
    if (← shapeOf e).space?.isSome then
      fail (.isPointer "the value indexed by a `[]` subscripting expression" base.place)
  | .reference _ => pure ()
  match ← constantIndex? i with
  | some n => return (b, .accessIndex b.expr n)
  | none => return (b, .access b.expr i)

/-- One component, or a few in a new order. -/
inductive Accessor where
  | single (index : Nat)
  | pattern (size : VectorSize) (components : List SwizzleComponent)

def letterIndex? (c : Char) : Option Nat :=
  match c with
  | 'x' | 'r' => some 0
  | 'y' | 'g' => some 1
  | 'z' | 'b' => some 2
  | 'w' | 'a' => some 3
  | _ => none

/-- Components by their letters: all of `xyzw`, or all of `rgba`. -/
def accessorOf? (name : String) : Option Accessor :=
  let cs := name.toList
  let fromOneSet := cs.all (['x', 'y', 'z', 'w'].contains ·) || cs.all (['r', 'g', 'b', 'a'].contains ·)
  match cs with
  | [c] => (letterIndex? c).map .single
  | _ =>
    if fromOneSet then do
      let size ← VectorSize.ofCount? cs.length
      let components ← cs.mapM fun c => (letterIndex? c).bind SwizzleComponent.ofIndex?
      return .pattern size components
    else none

/-- The shape of what a member is taken of. -/
def compositeShape (base : Expr) (b : Typed) : L Shape := do
  let shape ← shapeOf b.expr
  match b with
  | .reference _ =>
    match shape with
    | .pointer t _ => return (← get).module.shapeOf t
    | .valuePointer none s _ => return .scalar s
    | .valuePointer (some n) s _ => return .vector n s
    | other => return other
  | .plain _ =>
    if shape.space?.isSome then
      fail (.isPointer "the value accessed by a `.member` expression" base.place)
    else return shape

def lowerMember (p : Parts) (base : Expr) (field : Ident) : L (Typed × Expression) := do
  let b ← p.reference base
  match ← compositeShape base b with
  | .struct members _ =>
    match members.findIdx? (·.name = some field.name) with
    | some i => return (b, .accessIndex b.expr i)
    | none => fail (.badAccessor field.place)
  | .vector _ _ =>
    match accessorOf? field.name with
    | none => fail (.badAccessor field.place)
    | some (.single i) => return (b, .accessIndex b.expr i)
    | some (.pattern n cs) => do
      let v ← load b
      return (.plain v, .swizzle n v cs)
  | _ => fail (.badAccessor field.place)

def lowerBitcast (p : Parts) (operand : Expr) (t : TypeExpr) (typePlace : Span) :
    L Expression := do
  let e ← p.value operand
  let goal ← p.type none t
  match (← get).module.shapeOf goal with
  | .scalar s | .vector _ s => return .convert e s.kind none
  | _ => do fail (.badTypeCast typePlace (← textOfResolved (← resolve e)) (← textOfType goal))

/-- A function of the module is called by a statement; its result is an expression. -/
def callFunction (p : Parts) (place : Span) (f : Nat) (arguments : List Expr) :
    L (Option ExprId) := do
  let args ← arguments.mapM p.value
  requireRuntime place
  let hasResult := ((← get).module.functions.get f).result.isSome
  finishEmit
  let result ← if hasResult then some <$> pushRuntime (.callResult f) place else pure none
  startEmit
  pushStatement (.call f args result) place
  return result

/-- Fails unless there are exactly so many arguments. -/
def exactly (n : Nat) (arguments : List Expr) (place : Span) : L Unit :=
  let found := arguments.length
  if found < n then fail (.wrongArgumentCount place n (found + 1) found)
  else if found > n then fail (.wrongArgumentCount place n (n + 1) found)
  else return ()

def derivativeOf? : String → Option (DerivativeAxis × DerivativeControl)
  | "dpdx" => some (.x, .none)
  | "dpdxCoarse" => some (.x, .coarse)
  | "dpdxFine" => some (.x, .fine)
  | "dpdy" => some (.y, .none)
  | "dpdyCoarse" => some (.y, .coarse)
  | "dpdyFine" => some (.y, .fine)
  | "fwidth" => some (.width, .none)
  | "fwidthCoarse" => some (.width, .coarse)
  | "fwidthFine" => some (.width, .fine)
  | _ => none

/-- The functions that sample a texture. -/
inductive TextureFunction where
  | sample
  | sampleBias
  | sampleCompare
  | sampleCompareLevel
  | sampleLevel

def textureFunctionOf? : String → Option TextureFunction
  | "textureSample" => some .sample
  | "textureSampleBias" => some .sampleBias
  | "textureSampleCompare" => some .sampleCompare
  | "textureSampleCompareLevel" => some .sampleCompareLevel
  | "textureSampleLevel" => some .sampleLevel
  | _ => none

/-- The next argument of a texture function. -/
def takeArgument (place : Span) (least total : Nat) : List Expr → L (Expr × List Expr)
  | a :: rest => return (a, rest)
  | [] => fail (.wrongArgumentCount place least (total + 1) total)

def lowerTexture (p : Parts) (f : TextureFunction) (arguments : List Expr) (place : Span) :
    L Expression := do
  let least := match f with
    | .sample => 3
    | _ => 5
  let take := takeArgument place least arguments.length
  let (imageArg, rest) ← take arguments
  let image ← p.abstract imageArg
  let (samplerArg, rest) ← take rest
  let sampler ← p.abstract samplerArg
  let (coordinateArg, rest) ← take rest
  let coordinate ← p.abstract coordinateArg
  match ← shapeOf image with
  | .image _ arrayed _ => do
    let (arrayIndex, rest) ←
      if arrayed then do
        let (a, rest) ← take rest
        pure (some (← p.value a), rest)
      else pure (none, rest)
    let extra (make : ExprId → SampleLevel × Option ExprId) (rest : List Expr) :
        L ((SampleLevel × Option ExprId) × List Expr) := do
      let (a, rest) ← take rest
      return (make (← p.value a), rest)
    let ((level, depth), rest) ← match f with
      | .sample => pure ((SampleLevel.automatic, none), rest)
      | .sampleBias => extra (fun e => (.bias e, none)) rest
      | .sampleCompare => extra (fun e => (.automatic, some e)) rest
      | .sampleCompareLevel => extra (fun e => (.zero, some e)) rest
      | .sampleLevel => extra (fun e => (.exact e, none)) rest
    if rest.isEmpty then return .imageSample image sampler coordinate arrayIndex level depth
    else fail (.wrongArgumentCount place least (arguments.length + 1) arguments.length)
  | _ => fail (.badTexture imageArg.place)

/-- All and any of a single truth value are that value. -/
def lowerRelational (p : Parts) (f : RelationalFunction) (arguments : List Expr) (place : Span) :
    L (Except ExprId Expression) := do
  exactly 1 arguments place
  let e ← p.value (arguments.headD default)
  match ← shapeOf e with
  | .scalar s => if s.kind = .bool then return .error e else return .ok (.relational f e)
  | _ => return .ok (.relational f e)

/-- A function of numbers; how many arguments it takes is checked with the module. -/
def lowerMath (p : Parts) (f : MathFunction) (arguments : List Expr) (place : Span) :
    L Expression := do
  if arguments.isEmpty then
    fail (.wrongArgumentCount place f.argumentCount 1 0)
  else if arguments.length > 4 then
    fail (.wrongArgumentCount place f.argumentCount 5 arguments.length)
  else return .math f (← arguments.mapM p.value)

/-- A function of the language. -/
def callBuiltIn (p : Parts) (function : Ident) (arguments : List Expr) : L (Option ExprId) := do
  let place := function.place
  let add (e : Expression) : L (Option ExprId) := do return some (← append e place)
  let relational (f : RelationalFunction) : L (Option ExprId) := do
    match ← lowerRelational p f arguments place with
    | .error same => return some same
    | .ok e => add e
  let barrier (storage workGroup : Bool) : L (Option ExprId) := do
    exactly 0 arguments place
    requireRuntime place
    pushStatement (.barrier storage workGroup) place
    return none
  match derivativeOf? function.name, MathFunction.ofSourceName? function.name,
      textureFunctionOf? function.name with
  | some (axis, control), _, _ => do
    exactly 1 arguments place
    add (.derivative axis control (← p.value (arguments.headD default)))
  | none, some f, _ => do add (← lowerMath p f arguments place)
  | none, none, some f => do add (← lowerTexture p f arguments place)
  | none, none, none =>
    match function.name, arguments with
    | "all", _ => relational .all
    | "any", _ => relational .any
    | "select", [r, a, c] => do
      let reject ← p.value r
      let accept ← p.value a
      let condition ← p.value c
      add (.select condition accept reject)
    | "select", _ => do
      exactly 3 arguments place
      return none
    | "arrayLength", [a] => do add (.arrayLength (← p.value a))
    | "arrayLength", _ => do
      exactly 1 arguments place
      return none
    | "storageBarrier", _ => barrier true false
    | "workgroupBarrier", _ => barrier false true
    | _, _ => fail (.unknownIdentifier place function.name)

/-- A call; a call of a type builds a value of it. -/
def lowerCall (p : Parts) (place : Span) (function : Ident) (arguments : List Expr) :
    L (Option ExprId) := do
  match (← get).names.lookup function.name with
  | some (.type t) => do
    return some (← constructValue p place (.type t) function.place arguments)
  | some (.const _) | some (.override _) | some (.var _) =>
    fail (.unexpected function.place .function)
  | some .entryPoint => fail (.calledEntryPoint function.place)
  | some (.function f) => callFunction p place f arguments
  | none => callBuiltIn p function arguments

/-- An expression, which may stay a reference. -/
def expressionStep (p : Parts) (e : Expr) : L Typed := do
  /- a part of a reference is a reference -/
  let partOf (x : Typed × Expression) : L Typed := do
    let r ← append x.2 e.place
    match x.1 with
    | .reference _ => return .reference r
    | .plain _ => return .plain r
  match e with
  | .literal v place => do return .plain (← append (.literal (literalOfAst v)) place)
  | .ident name slot place => lowerIdent name slot place
  | .construct c typePlace arguments place => do
    let goal ← goalOf p c
    return .plain (← constructValue p place goal typePlace arguments)
  | .unary op operand place => do
    let x ← p.abstract operand
    return .plain (← append (.unary op x) place)
  | .addressOf operand place => lowerAddressOf p operand place
  | .deref operand place => lowerDeref p operand place
  | .binary op l r place => do return .plain (← append (← lowerBinary p op l r place) place)
  | .call function arguments place => do
    match ← lowerCall p place function arguments with
    | some r => return .plain r
    | none => fail (.returnsVoid function.place)
  | .index base index _ => do partOf (← lowerIndex p base index)
  | .member base field _ => do partOf (← lowerMember p base field)
  | .bitcast operand t typePlace place => do
    return .plain (← append (← lowerBitcast p operand t typePlace) place)

/-- How expressions and types of bounded depth are lowered. -/
def parts : Nat → Parts
  | 0 => ⟨fun _ => fail .other, fun _ _ => fail .other⟩
  | depth + 1 =>
    let inner := parts depth
    ⟨expressionStep inner, typeStep inner⟩

end ShaderConvert.Wgsl.Lowering
