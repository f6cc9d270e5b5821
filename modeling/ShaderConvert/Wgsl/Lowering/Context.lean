import ShaderConvert.Ir.ConstantEvaluation
import ShaderConvert.Wgsl.Fault
import ShaderConvert.Wgsl.Ast

/-
The state in which a source tree becomes a module.

Expressions are added to the function that is being built or, outside of functions, to the module
(`append`); their types are known as soon as they are asked for (`resolve`). A name that stands for a
variable gives a reference, which is loaded where a value is needed.
-/
namespace ShaderConvert.Wgsl.Lowering

open Ir

/-- What a global name stands for. -/
inductive Declared where
  | function (index : Nat)
  | entryPoint
  | var (index : Nat)
  | const (index : Nat)
  | override (index : Nat)
  | type (type : TypeId)
deriving Repr, DecidableEq, Inhabited

/-- An expression, or a pointer that stands for what it points to. -/
inductive Typed where
  | reference (e : ExprId)
  | plain (e : ExprId)
deriving Repr, DecidableEq, Inhabited

def Typed.expr : Typed → ExprId
  | reference e | plain e => e

/-- A function that is being built. -/
structure Draft where
  arguments : List FunctionArgument := []
  expressions : Arena Expression := .empty
  kinds : Array Evaluability := #[]
  resolved : Array Resolved := #[]
  locals : Arena LocalVariable := .empty
  /-- Named expressions with the places of their names, in order. -/
  named : List (ExprId × String × Span) := []
  /-- What the locals of the tree stand for. -/
  slots : List (Nat × Typed) := []
  emitFrom : Option ExprId := none
  block : Block := .empty
deriving Inhabited

structure State where
  module : Module := {}
  globalKinds : Array Evaluability := #[]
  globalResolved : Array Resolved := #[]
  names : List (String × Declared) := []
  permission : Permission := .constant
  draft : Draft := {}
deriving Inhabited

abbrev L := StateT State (Except Fault)

def fail {α : Type} (f : Fault) : L α := throw f

def isRuntime : L Bool := do return (← get).permission == .runtime

/-- Runs a computation outside of the function. -/
def withPermission {α : Type} (p : Permission) (x : L α) : L α := do
  let old := (← get).permission
  modify fun s => { s with permission := p }
  let a ← x
  modify fun s => { s with permission := old }
  return a

def modifyDraft (f : Draft → Draft) : L Unit := modify fun s => { s with draft := f s.draft }

/-- The expressions of the function or of the module. -/
def expressions : L (Arena Expression) := do
  let s ← get
  return if s.permission == .runtime then s.draft.expressions else s.module.globalExpressions

def placeOf (e : ExprId) : L Span := do return (← expressions).span e

def types : L (Arena ShaderType) := do return (← get).module.types

/-- The place of a type. -/
def intern (name : Option String) (shape : Shape) (place : Span) : L TypeId :=
  modifyGet fun s =>
    let (m, t) := s.module.internType ⟨name, shape⟩ place
    (t, { s with module := m })

/-- The place of an unnamed type. -/
def ensureType (shape : Shape) : L TypeId := intern none shape .undefined

/-- Runs a computation of constants on the current expressions. -/
def evaluating {α : Type} (x : Evaluator.Eval α) (onFault : ConstantFault → Fault) : L α := do
  let s ← get
  let runtime := s.permission == .runtime
  let e : Evaluator :=
    { permission := s.permission
      types := s.module.types
      constants := s.module.constants
      overrides := s.module.overrides
      globalExpressions := s.module.globalExpressions
      expressions := if runtime then s.draft.expressions else s.module.globalExpressions
      kinds := if runtime then s.draft.kinds else s.globalKinds
      emitFrom := if runtime then s.draft.emitFrom else none
      block := if runtime then s.draft.block else .empty }
  match x.run e with
  | .error f => throw (onFault f)
  | .ok (a, e) => do
    if runtime then
      set { s with
        module := { s.module with types := e.types }
        draft := { s.draft with
          expressions := e.expressions, kinds := e.kinds, emitFrom := e.emitFrom,
          block := e.block } }
    else
      set { s with
        module := { s.module with types := e.types, globalExpressions := e.expressions }
        globalKinds := e.kinds }
    return a

/-- Adds an expression, or its value. -/
def append (e : Expression) (place : Span) : L ExprId :=
  evaluating (Evaluator.append e place) (.constant · place)

/-- The types of all expressions so far. -/
def grow (c : TypingContext) (es : Arena Expression) (known : Array Resolved) :
    Except Fault (Array Resolved) :=
  (es.items.toList.drop known.size).foldlM (fun known (e, _) =>
    match typeOfExpression c (fun i => known[i]?.getD default) e with
    | .ok r => .ok (known.push r)
    | .error f => .error (.typing f)) known

/-- The type of an expression. -/
def resolve (e : ExprId) : L Resolved := do
  let s ← get
  let m := s.module
  let d := s.draft
  if s.permission == .runtime then
    let c : TypingContext :=
      ⟨m.types, m.constants, m.overrides, m.globals, d.locals, m.functions, d.arguments⟩
    let known ← liftM (m := Except Fault) (grow c d.expressions d.resolved)
    set { s with draft := { d with resolved := known } }
    return known[e]?.getD default
  else
    let known ← liftM (m := Except Fault)
      (grow (.ofModule m) m.globalExpressions s.globalResolved)
    set { s with globalResolved := known }
    return known[e]?.getD default

def shapeOf (e : ExprId) : L Shape := do
  let r ← resolve e
  return r.shapeIn (← types)

/-- The type of an expression as a type of the module. -/
def registerType (e : ExprId) : L TypeId := do
  match ← resolve e with
  | .named t => return t
  | .shape s => ensureType s

/-- A depth that no type exceeds. -/
def typeDepth : L Nat := do return (← types).size + 1

/-- Types as they are written, for messages. -/
def textOfShape (types : Arena ShaderType) : Nat → Shape → String
  | _, .scalar s => s.sourceName
  | _, .vector n s => s!"vec{n.count}<" ++ s.sourceName ++ ">"
  | _, .matrix c r s => s!"mat{c.count}x{r.count}<" ++ s.sourceName ++ ">"
  | _, .pointer base _ => "ptr<" ++ ((types.get base).name.getD "unknown") ++ ">"
  | _, .valuePointer _ s _ => "ptr<" ++ s.sourceName ++ ">"
  | d + 1, .array base (.constant n) _ =>
    "array<" ++ textOfShape types d (types.get base).shape ++ s!", {n}>"
  | d + 1, .array base .dynamic _ => "array<" ++ textOfShape types d (types.get base).shape ++ ">"
  | 0, .array _ _ _ => "array"
  | _, .struct _ _ => "struct"
  | _, .image dim arrayed cls =>
    let suffix := dim.sourceName ++ (if arrayed then "_array" else "")
    match cls with
    | .sampled kind multi =>
      "texture_" ++ (if multi then "multisampled_" else "") ++ suffix ++ "<"
        ++ (⟨kind, 4⟩ : Scalar).sourceName ++ ">"
    | .depth multi => "texture_depth_" ++ (if multi then "multisampled_" else "") ++ suffix
  | _, .sampler _ => "sampler"

def textOfType (t : TypeId) : L String := do
  let ts ← types
  match (ts.get t).name with
  | some n => return n
  | none => return textOfShape ts (ts.size + 1) (ts.get t).shape

def textOfResolved : Resolved → L String
  | .named t => textOfType t
  | .shape s => do
    let ts ← types
    return textOfShape ts (ts.size + 1) s

/-- A reference becomes the value it refers to. -/
def load : Typed → L ExprId
  | .plain e => return e
  | .reference p => do append (.load p) (← placeOf p)

/-- A value without abstract numbers. -/
def concretize (e : ExprId) : L ExprId := do
  let shape ← shapeOf e
  match shape.leafScalar? (← types) (← typeDepth) with
  | none => return e
  | some s =>
    if s.concretize = s then return e
    else
      let place ← placeOf e
      let text ← textOfResolved (← resolve e)
      evaluating (Evaluator.castArray s.concretize (← typeDepth) e place)
        (.concretization place text ·)

/-- A value over another scalar. -/
def convertLeaf (e : ExprId) (place : Span) (goal : Scalar) : L ExprId := do
  match ← shapeOf e with
  | .array _ _ _ =>
    evaluating (Evaluator.castArray goal (← typeDepth) e place) (.constant · place)
  | _ => append (.convert e goal.kind (some goal.width)) place

/-- A value as a value of a type, if it is one or becomes one by itself. -/
def convertTo (e : ExprId) (goal : Resolved) (goalPlace : Span) : L ExprId := do
  let place ← placeOf e
  let r ← resolve e
  let ts ← types
  let mine := r.shapeIn ts
  let theirs := goal.shapeIn ts
  if mine.equivalent ts theirs then return e
  else
    match mine.conversion? ts (ts.size + 1) theirs with
    | some (_, s) => convertLeaf e place s
    | none => do
      fail (.autoConversion goalPlace (← textOfResolved goal) place (← textOfResolved r))

/-- A value over a scalar, if it is over it or becomes so by itself. -/
def convertLeafTo (e : ExprId) (goal : Scalar) (goalPlace : Span) : L ExprId := do
  let place ← placeOf e
  let r ← resolve e
  let refuse : L ExprId := do
    fail (.autoConversionLeaf goalPlace goal.sourceName place (← textOfResolved r))
  match (r.shapeIn (← types)).scalar? with
  | none => refuse
  | some s =>
    if s = goal then return e
    else if s.convertsTo goal then convertLeaf e place goal
    else refuse

/-- The scalar that all of some values convert to by themselves; else the first that does not. -/
def consensus (es : List ExprId) : L (Except Nat Scalar) := do
  let shapes ← es.mapM shapeOf
  let scalars := shapes.map (·.scalar?)
  return match scalars with
    | [] => .error 0
    | none :: _ => .error 0
    | some first :: rest =>
      rest.zipIdx.foldl (fun best (s, i) =>
        match best, s with
        | .ok b, some s =>
          match b.join s with
          | some j => .ok j
          | none => .error (i + 1)
        | .ok _, none => .error (i + 1)
        | .error k, _ => .error k) (.ok first)

/-- A value over a scalar that it is known to convert to. -/
def convertToLeaf (goal : Scalar) (e : ExprId) : L ExprId := do
  if (← shapeOf e).scalar? = some goal then return e
  else append (.convert e goal.kind (some goal.width)) (← placeOf e)

/-- The value of an expression as a literal. -/
def literalOf? (m : Module) (es : Arena Expression) (e : ExprId) : Option Literal :=
  match es.get? e with
  | some (.literal l) => some l
  | some (.zeroValue t) =>
    match m.shapeOf t with
    | .scalar s => Literal.zero? s
    | _ => none
  | some (.constant c) =>
    match m.globalExpressions.get? (m.constants.get c).init with
    | some (.literal l) => some l
    | some (.zeroValue t) =>
      match m.shapeOf t with
      | .scalar s => Literal.zero? s
      | _ => none
    | _ => none
  | _ => none

/-- The places of a fault: a number that is no constant, or a negative one. -/
inductive CountFault where
  | notConstant
  | negative

/-- A concrete whole number that is not negative. -/
def countOf (m : Module) (es : Arena Expression) (e : ExprId) : Except CountFault Nat :=
  match literalOf? m es e with
  | some (.u32 n) => .ok n
  | some (.i32 n) => if n < 0 then .error .negative else .ok n.toNat
  | _ => .error .notConstant

/-- Waits for expressions that a statement has to evaluate. -/
def startEmit : L Unit :=
  modifyDraft fun d => { d with emitFrom := some d.expressions.size }

/-- Evaluates what has been waiting. -/
def finishEmit : L Unit :=
  modifyDraft fun d =>
    match d.emitFrom with
    | some first =>
      { d with
        block := d.block.append (.mk (emitRange d.expressions first)), emitFrom := none }
    | none => d

def pushStatement (s : Statement) (place : Span) : L Unit :=
  modifyDraft fun d => { d with block := d.block.push s place }

/-- Adds an expression that no rule computes. -/
def pushRuntime (e : Expression) (place : Span) : L ExprId := do
  let n := (← get).draft.expressions.size
  modifyDraft fun d =>
    { d with expressions := d.expressions.push e place, kinds := d.kinds.push .runtime }
  return n

/-- Fails outside of functions. -/
def requireRuntime (place : Span) : L Unit := do
  if (← isRuntime) then return () else fail (.unexpectedOperation place)

/-- Gives an expression a name; a later name replaces an earlier one. -/
def nameExpression (e : ExprId) (name : String) (place : Span) : L Unit :=
  modifyDraft fun d =>
    { d with
      named :=
        if d.named.any (·.1 = e) then
          d.named.map fun n => if n.1 = e then (e, name, place) else n
        else d.named ++ [(e, name, place)] }

end ShaderConvert.Wgsl.Lowering
