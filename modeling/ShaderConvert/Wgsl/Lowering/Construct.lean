import ShaderConvert.Ir.Layout
import ShaderConvert.Wgsl.Lowering.Context

/-
Types, and values built of a type and arguments.

`Parts` holds how the parts of an expression or a type are lowered; the functions here and in the
modules after it take it as an argument.
-/
namespace ShaderConvert.Wgsl.Lowering

open Ir
open Ast (Expr TypeExpr)

/-- How parts are lowered. -/
structure Parts where
  /-- An expression, which may stay a reference. -/
  reference : Expr → L Typed
  /-- A type, with the name it is to have. -/
  type : Option String → TypeExpr → L TypeId

namespace Parts

/-- A value that may be abstract. -/
def abstract (p : Parts) (e : Expr) : L ExprId := do load (← p.reference e)

/-- A concrete value. -/
def value (p : Parts) (e : Expr) : L ExprId := do concretize (← p.abstract e)

/-- A whole number that is not negative, known beforehand. -/
def count (p : Parts) (e : Expr) : L (Nat × Span) :=
  withPermission .constant do
    let x ← p.value e
    let m := (← get).module
    match countOf m m.globalExpressions x with
    | .ok n => return (n, e.place)
    | .error .notConstant => fail (.notConcreteInteger e.place)
    | .error .negative => fail (.negative e.place)

/-- The number of elements of an array. -/
def arraySize (p : Parts) : Option Expr → L ArraySize
  | none => return .dynamic
  | some e =>
    withPermission .constant do
      let x ← p.value e
      let m := (← get).module
      match countOf m m.globalExpressions x with
      | .ok 0 => fail (.notPositive e.place)
      | .ok n => return .constant n
      | .error .notConstant => fail (.notConcreteInteger e.place)
      | .error .negative => fail (.notPositive e.place)

end Parts

/-- The layout of a type. -/
def layoutOf (t : TypeId) : L Layout := do
  match (← get).module.layouts with
  | .ok ls => return ls[t]?.getD default
  | .error _ => return default

def arrayShape (base : TypeId) (size : ArraySize) : L Shape := do
  return .array base size (← layoutOf base).stride

/-- A type of the tree as a type of the module. -/
def typeStep (p : Parts) (name : Option String) : TypeExpr → L TypeId
  | .scalar s => intern name (.scalar s) .undefined
  | .vector n s => intern name (.vector n s) .undefined
  | .matrix c r w => intern name (.matrix c r ⟨.float, w⟩) .undefined
  | .pointer base space => do
    let base ← p.type none base
    intern name (.pointer base space) .undefined
  | .array base size => do
    let base ← p.type none base
    let size ← p.arraySize size
    intern name (← arrayShape base size) .undefined
  | .image dim arrayed cls => intern name (.image dim arrayed cls) .undefined
  | .sampler b => intern name (.sampler b) .undefined
  | .user i => do
    match (← get).names.lookup i.name with
    | some (.type t) => return t
    | _ => fail (.unknownType i.place)

/-- What is built: a type, or a type whose scalar the arguments decide. -/
inductive Goal where
  | type (t : TypeId)
  | partialVector (size : VectorSize)
  | partialMatrix (columns rows : VectorSize)
  | partialArray

def Goal.text : Goal → L String
  | type t => textOfType t
  | partialVector n => return s!"vec{n.count}<?>"
  | partialMatrix c r => return s!"mat{c.count}x{r.count}<?>"
  | partialArray => return "array<?, ?>"

def goalOf (p : Parts) : Ast.Constructor → L Goal
  | .scalar s => do return .type (← ensureType (.scalar s))
  | .partialVector n => return .partialVector n
  | .vector n s => do return .type (← ensureType (.vector n s))
  | .partialMatrix c r => return .partialMatrix c r
  | .matrix c r w => do return .type (← ensureType (.matrix c r ⟨.float, w⟩))
  | .partialArray => return .partialArray
  | .array base size => do
    let base ← p.type none base
    let size ← p.arraySize size
    return .type (← ensureType (← arrayShape base size))

/-- The scalar of all arguments; an argument without one is at fault. -/
def commonScalar (args : List (ExprId × Span)) : L Scalar := do
  match ← consensus (args.map (·.1)) with
  | .ok s => return s
  | .error i => fail (.invalidComponent ((args.map (·.2))[i]?.getD .undefined) i)

/-- Lists of so many items. -/
def chunks {α : Type} (n : Nat) (xs : List α) : List (List α) :=
  (List.range (xs.length / n)).map fun i => (xs.drop (i * n)).take n

/-- A matrix from its elements. -/
def composeMatrix (columns rows : VectorSize) (s : Scalar) (es : List ExprId) :
    L Expression := do
  let vec ← ensureType (.vector rows s)
  let parts ← (chunks rows.count es).mapM fun c => append (.compose vec c) .undefined
  let t ← ensureType (.matrix columns rows s)
  return .compose t parts

/-- Arguments of a vector whose scalar is given: scalars and vectors over it. -/
def vectorArguments (es : List ExprId) (s : Scalar) (place : Span) : L (List ExprId) :=
  es.zipIdx.mapM fun (e, i) => do
    match ← shapeOf e with
    | .scalar _ => convertTo e (.shape (.scalar s)) place
    | .vector n _ => convertTo e (.shape (.vector n s)) place
    | _ => do fail (.invalidComponent (← placeOf e) i)

/-- An array from its elements; without a type given, the first element decides it. -/
def inferArray (es : List ExprId) : L Expression := do
  let es ← match ← consensus es with
    | .ok s => es.mapM (convertToLeaf s)
    | .error _ => pure es
  let base ← registerType (es.headD 0)
  let t ← ensureType (← arrayShape base (.constant es.length))
  return .compose t es

/-- The value of a struct; members without an argument are missed later. -/
def structValue (t : TypeId) (members : List StructMember) (es : List ExprId) : L Expression := do
  let place := (← types).span t
  let converted ← (es.zip members).mapM fun (e, m) => convertTo e (.named m.type) place
  return .compose t (converted ++ es.drop members.length)

/-- The faults of arguments that fit no rule. -/
def badArguments (goal : Goal) (typePlace : Span) (args : List (ExprId × Span)) :
    L Expression := do
  match args, goal with
  | [(e, place)], _ => do
    let found ← textOfResolved (← resolve e)
    fail (.badTypeCast place found (← goal.text))
  | _ :: (_, second) :: _, .type t =>
    match (← get).module.shapeOf t with
    | .scalar _ => fail (.unexpectedComponents (second.cover (args.getLastD (0, second)).2))
    | _ => fail (.notConstructible typePlace)
  | _, _ => fail (.notConstructible typePlace)

/-- A value built of one argument. -/
def ofOne (goal : Goal) (typePlace : Span) (e : ExprId) (place : Span) :
    L (Except ExprId Expression) := do
  let shape ← shapeOf e
  let refuse : L (Except ExprId Expression) := do
    return .ok (← badArguments goal typePlace [(e, place)])
  match goal with
  | .partialVector n =>
    match shape with
    | .vector m _ => if m = n then return .error e else refuse
    | .scalar _ => return .ok (.splat n e)
    | _ => refuse
  | .partialMatrix c r =>
    match shape with
    | .matrix c' r' _ => if c = c' ∧ r = r' then return .error e else refuse
    | _ => refuse
  | .partialArray => do return .ok (← inferArray [e])
  | .type t =>
    match (← get).module.shapeOf t, shape with
    | .scalar s, .scalar _ => return .ok (.convert e s.kind (some s.width))
    | .vector n s, .vector m _ =>
      if m = n then return .ok (.convert e s.kind (some s.width)) else refuse
    | .matrix c r s, .matrix c' r' _ =>
      if c = c' ∧ r = r' then return .ok (.convert e s.kind (some s.width)) else refuse
    | .vector n s, .scalar _ => do return .ok (.splat n (← convertToLeaf s e))
    | .array base _ _, _ => do return .ok (.compose t [← convertTo e (.named base) typePlace])
    | .struct members _, _ => do return .ok (← structValue t members [e])
    | _, _ => refuse

/-- A value built of several arguments. -/
def ofMany (goal : Goal) (typePlace : Span) (args : List (ExprId × Span)) : L Expression := do
  let es := args.map (·.1)
  match goal with
  | .partialVector n => do
    let s ← commonScalar args
    let es ← es.mapM (convertToLeaf s)
    return .compose (← ensureType (.vector n s)) es
  | .partialMatrix c r => do
    let s ← commonScalar args
    if es.length = c.count * r.count then
      -- elements of a matrix are floating point numbers
      let s := (s.join .abstractFloat).getD s
      composeMatrix c r s (← es.mapM (convertToLeaf s))
    else
      let es ← es.mapM (convertToLeaf s)
      return .compose (← ensureType (.matrix c r s)) es
  | .partialArray => inferArray es
  | .type t =>
    match (← get).module.shapeOf t with
    | .vector _ s => do return .compose t (← vectorArguments es s typePlace)
    | .matrix c r s =>
      if es.length = c.count * r.count then do
        let es ← es.mapM fun e => convertTo e (.shape (.scalar s)) typePlace
        composeMatrix c r s es
      else do
        let es ← es.mapM fun e => convertTo e (.shape (.vector r s)) typePlace
        return .compose t es
    | .array base _ _ => do
      let es ← es.mapM fun e => convertTo e (.named base) typePlace
      return .compose t es
    | .struct members _ => structValue t members es
    | _ => badArguments goal typePlace args

/-- A value built of a type and arguments. -/
def constructValue (p : Parts) (place : Span) (goal : Goal) (typePlace : Span)
    (arguments : List Expr) : L ExprId := do
  match arguments with
  | [] =>
    match goal with
    | .type t => append (.zeroValue t) place
    | _ => fail (.notInferable typePlace)
  | [a] => do
    let e ← p.abstract a
    match ← ofOne goal typePlace e a.place with
    | .error same => return same
    | .ok x => append x place
  | _ => do
    let es ← arguments.mapM p.abstract
    for e in es do
      discard (resolve e)
    append (← ofMany goal typePlace (es.zip (arguments.map (·.place)))) place

end ShaderConvert.Wgsl.Lowering
