import ShaderConvert.Wgsl.Lowering.Expression

/-
Statements.

A statement adds to the block that is being built. The expressions in it are evaluated by an `emit`
in front of it. `Ir.Block.ensureReturn` gives every way through a body an end.
-/
namespace ShaderConvert.Ir

/-- A block with one more return at its end. -/
def Block.withReturn (ss : List (Statement × Span)) : List (Statement × Span) :=
  ss ++ [(.ret none, .undefined)]

mutual

/-- Does nothing follow the statement, once its inner blocks have an end? -/
def endStatement : Statement → Option Statement
  | .block b => some (.block (ensureReturn b))
  | .branch c a r => some (.branch c (ensureReturn a) (ensureReturn r))
  | .switch s cases => some (.switch s (endCases cases))
  | .emit a b => some (.emit a b)
  | .exit => some .exit
  | .next => some .next
  | .ret v => some (.ret v)
  | .kill => some .kill
  | .loop _ _ _ | .barrier _ _ | .store _ _ | .call _ _ _ => none

/-- The statements, with a return where the last one is not the end of its way. -/
def endStatements : List (Statement × Span) → List (Statement × Span)
  | [] => Block.withReturn []
  | (s, p) :: rest =>
    match rest with
    | [] =>
      match endStatement s with
      | some t => [(t, p)]
      | none => Block.withReturn [(s, p)]
    | _ :: _ => (s, p) :: endStatements rest

def endCases : List SwitchCase → List SwitchCase
  | [] => []
  | .mk v b fall :: rest => .mk v (if fall then b else ensureReturn b) fall :: endCases rest

/-- The block with a return at the end of every way through it. -/
def ensureReturn : Block → Block
  | .mk ss => .mk (endStatements ss)

end

end ShaderConvert.Ir

namespace ShaderConvert.Wgsl.Lowering

open Ir
open Ast (Expr TypeExpr Ident Stmt StmtKind Case)

/-- The statements that a computation adds, as a block of their own. -/
def inBlock (x : L Unit) : L Block := do
  let outer := (← get).draft.block
  modifyDraft fun d => { d with block := .empty }
  x
  let inner := (← get).draft.block
  modifyDraft fun d => { d with block := outer }
  return inner

/-- Evaluates the expressions of a computation behind it. -/
def emitting {α : Type} (x : L α) : L α := do
  startEmit
  let a ← x
  finishEmit
  return a

/-- A conversion that fails for a declaration is a mismatch of its type. -/
def initializerFor (name : Ident) (e : ExprId) (goal : TypeId) : L ExprId :=
  tryCatch (convertTo e (.named goal) name.place) fun
    | .autoConversion _ expected _ got => fail (.initializationMismatch name.place expected got)
    | f => fail f

/-- What is bound to a name is no constant, even if it could be one. -/
def forceRuntime (e : ExprId) : L Unit :=
  modifyDraft fun d => { d with kinds := d.kinds.modify e fun _ => .runtime }

def lowerLet (p : Parts) (name : Ident) (slot : Nat) (type : Option TypeExpr) (init : Expr) :
    L Unit := do
  let value ← emitting do
    let value ← p.value init
    forceRuntime value
    match type with
    | none => pure ()
    | some t => do
      let expected ← p.type none t
      let got ← registerType value
      let m := (← get).module
      if !((m.shapeOf expected).equivalent m.types (m.shapeOf got)) then
        fail (.initializationMismatch name.place (← textOfType expected) (← textOfType got))
    return value
  modifyDraft fun d => { d with slots := (slot, .plain value) :: d.slots }
  nameExpression value name.name name.place

/-- The type and the initial value of a variable. -/
def declaredType (p : Parts) (name : Ident) (type : Option TypeExpr) (init : Option Expr) :
    L (TypeId × Option ExprId) := do
  let explicit ← type.mapM (p.type none)
  match init, explicit with
  | some e, some t => do
    let value ← p.abstract e
    return (t, some (← initializerFor name value t))
  | some e, none => do
    let value ← p.value e
    return (← registerType value, some value)
  | none, some t => return (t, none)
  | none, none => fail (.missingTypeAndInit name.place)

/-- A variable. Its initial value is part of it if it is known beforehand and set once. -/
def lowerVar (p : Parts) (inLoop : Bool) (name : Ident) (slot : Nat) (type : Option TypeExpr)
    (init : Option Expr) (place : Span) : L Unit := do
  let (pointer, later) ← emitting do
    let (t, value) ← declaredType p name type init
    let kinds := (← get).draft.kinds
    let hoisted := !inLoop && value.all fun v => kinds[v]?.getD .runtime != .runtime
    let var := (← get).draft.locals.size
    modifyDraft fun d => { d with
      locals := d.locals.push ⟨some name.name, t, if hoisted then value else none⟩ place }
    let pointer ← append (.localVariable var) .undefined
    return (pointer, if hoisted then none else value)
  modifyDraft fun d => { d with slots := (slot, .reference pointer) :: d.slots }
  match later with
  | some v => pushStatement (.store pointer v) place
  | none => return ()

/-- Why an expression cannot be assigned to. -/
def assignmentTarget (d : Draft) : Nat → ExprId → AssignmentTarget
  | 0, _ => .other
  | depth + 1, e =>
    match d.named.lookup e with
    | some (_, place) => .immutable place
    | none =>
      match d.expressions.get e with
      | .swizzle _ _ _ => .swizzle
      | .access base _ | .accessIndex base _ => assignmentTarget d depth base
      | _ => .other

def lowerAssign (p : Parts) (target : Expr) (op : Option BinaryOperator) (value : Expr)
    (place : Span) : L Unit := do
  let (pointer, v) ← emitting do
    let t ← p.reference target
    let v ← p.value value
    match t with
    | .plain e => do
      let d := (← get).draft
      fail (.invalidAssignment target.place (assignmentTarget d (e + 1) e))
    | .reference pointer =>
      match op with
      | none => return (pointer, v)
      | some op => do
        let old ← load t
        let (l, r) ← spread op old v
        return (pointer, ← append (.binary op l r) place)
  pushStatement (.store pointer v) place

/-- The literal one of a whole number. -/
def one? (s : Scalar) : Option Literal :=
  match s.kind, s.width with
  | .sint, 4 => some (.i32 1)
  | .uint, 4 => some (.u32 1)
  | .sint, 8 => some (.i64 1)
  | .uint, 8 => some (.u64 1)
  | _, _ => none

def lowerStep (p : Parts) (op : BinaryOperator) (target : Expr) (place : Span) : L Unit := do
  let refuse {α : Type} : L α := fail (.badIncrement target.place)
  let (pointer, v) ← emitting do
    match ← p.reference target with
    | .plain _ => refuse
    | .reference pointer => do
      let scalar ← match ← shapeOf pointer with
        | .valuePointer none s _ => pure s
        | .pointer base _ =>
          match (← get).module.shapeOf base with
          | .scalar s => pure s
          | _ => refuse
        | _ => refuse
      match one? scalar with
      | none => refuse
      | some one => do
        let right ← append (.literal one) .undefined
        let left ← pushRuntime (.load pointer) target.place
        let sum ← pushRuntime (.binary op left right) place
        return (pointer, sum)
  pushStatement (.store pointer v) place

/-- The value of a case of a switch over signed or unsigned numbers. -/
def lowerCaseValue (p : Parts) (unsigned : Bool) : Ast.CaseValue → L SwitchValue
  | none => return .default
  | some e => do
    let literal ← withPermission .constant do
      let x ← p.value e
      let m := (← get).module
      return literalOf? m m.globalExpressions x
    match literal, unsigned with
    | some (.i32 n), false => return .i32 n
    | some (.u32 n), true => return .u32 n
    | _, _ => fail (.invalidSwitchValue unsigned e.place)

mutual

def lowerStmt (p : Parts) (inLoop : Bool) : Stmt → L Unit
  | .mk kind place => lowerKind p inLoop place kind

def lowerKind (p : Parts) (inLoop : Bool) (place : Span) : StmtKind → L Unit
  | .letDecl name slot type init => lowerLet p name slot type init
  | .varDecl name slot type init => lowerVar p inLoop name slot type init place
  | .block body => do
    let b ← inBlock (lowerStmts p inLoop body)
    pushStatement (.block b) place
  | .branch condition accept reject => do
    let c ← emitting (p.value condition)
    let a ← inBlock (lowerStmts p inLoop accept)
    let r ← inBlock (lowerStmts p inLoop reject)
    pushStatement (.branch c a r) place
  | .switch selector cases => do
    let (s, unsigned) ← emitting do
      let s ← p.value selector
      return (s, (← shapeOf s).scalarKind? == some .uint)
    let cs ← lowerCases p inLoop unsigned cases
    pushStatement (.switch s cs) place
  | .loop body continuing breakIf => do
    let b ← inBlock (lowerStmts p true body)
    let c ← inBlock (lowerStmts p true continuing)
    -- the condition is evaluated at the end of the continuing block
    let outer := (← get).draft.block
    modifyDraft fun d => { d with block := c }
    let test ← emitting (breakIf.mapM p.value)
    let c := (← get).draft.block
    modifyDraft fun d => { d with block := outer }
    pushStatement (.loop b c test) place
  | .exit => pushStatement .exit place
  | .next => pushStatement .next place
  | .ret value => do
    let v ← emitting (value.mapM p.value)
    pushStatement (.ret v) place
  | .kill => pushStatement .kill place
  | .call function arguments => emitting do
    discard (lowerCall p place function arguments)
  | .assign target op value => lowerAssign p target op value place
  | .increment target => lowerStep p .add target place
  | .decrement target => lowerStep p .subtract target place
  | .phony value => do
    let v ← emitting (p.value value)
    nameExpression v "phony" place

def lowerStmts (p : Parts) (inLoop : Bool) : List Stmt → L Unit
  | [] => return ()
  | s :: rest => do
    lowerStmt p inLoop s
    lowerStmts p inLoop rest

def lowerCases (p : Parts) (inLoop unsigned : Bool) : List Case → L (List SwitchCase)
  | [] => return []
  | .mk value body fallThrough :: rest => do
    let v ← lowerCaseValue p unsigned value
    let b ← inBlock (lowerStmts p inLoop body)
    let cs ← lowerCases p inLoop unsigned rest
    return .mk v b fallThrough :: cs

end

end ShaderConvert.Wgsl.Lowering
