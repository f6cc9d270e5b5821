import ShaderConvert.Spirv.Emission.Draft

/-
Pointers, and indices that stay in bounds.

An index is clamped to the last element (`restrict`), or compared so that a load outside gives zero
and a store outside does nothing (`readZeroSkipWrite`), or taken as it is. `pointerTo` gives a pointer
that can be used at once or the condition under which it can.
-/
namespace ShaderConvert.Spirv.Emission

open Ir

def expressionAt (e : ExprId) : E Expression := do
  return (← get).current.function.expressions.get e

/-- The id of an expression that has been evaluated. -/
def idOf (e : ExprId) : E Nat := do return (← get).current.ids[e]?.getD 0

def setId (e : ExprId) (id : Nat) : E Unit :=
  modifyCurrent fun f => { f with ids := f.ids.modify e fun _ => id }

def resolvedOf (e : ExprId) : E Resolved := do return (← get).current.info.typeOf e

def shapeOf (e : ExprId) : E Shape := do
  let d ← get
  return (d.current.info.typeOf e).shapeIn d.module.types

/-- The key of the type of an expression. -/
def typeKeyOf (e : ExprId) : E TypeKey := do return keyOf (← resolvedOf e)

/-- Is the value of a variable wrapped into a struct of its own? -/
def needsWrapper (m : Module) (g : GlobalVariable) : Bool :=
  match g.space with
  | .uniform | .storage _ | .pushConstant =>
    match m.shapeOf g.type with
    | .struct members _ =>
      match members.getLast? with
      | some last =>
        match m.shapeOf last.type with
        | .array _ .dynamic _ => false
        | _ => true
      | none => false
    | _ => true
  | _ => false

/-- The number of elements of an array that only the run knows. -/
def runtimeLength (array : ExprId) : E Nat := do
  let d ← get
  let found : Option (Nat × Nat) ← match ← expressionAt array with
    | .accessIndex base index => do
      match ← expressionAt base with
      | .globalVariable g => pure (some ((d.globals[g]?.getD default).access, index))
      | _ => pure none
    | .globalVariable g => pure (some ((d.globals[g]?.getD default).var, 0))
    | _ => pure none
  match found with
  | some (id, member) => pushTyped Code.arrayLength uintTypeId [id, member]
  | none => fail (.notValidated "array length expression")

/-- A number that is known, or the id of one. -/
inductive Known where
  | value (n : Nat)
  | id (id : Nat)

def lengthOf (sequence : ExprId) : E Known := do
  let ts := (← get).module.types
  let target := match ← shapeOf sequence with
    | .pointer base _ => (ts.get base).shape
    | other => other
  match target with
  | .vector n _ | .valuePointer (some n) _ _ => return .value n.count
  | .matrix c _ _ => return .value c.count
  | .array _ (.constant n) _ => return .value n
  | _ => do return .id (← runtimeLength sequence)

/-- The value of an index expression that is known. -/
def knownIndex? (e : ExprId) : E (Option Nat) := do
  let d ← get
  let ofLiteral : Literal → Option Nat
    | .u32 n => some n
    | .i32 n => if n < 0 then none else some n.toNat
    | _ => none
  let ofExpression (x : Expression) : Option Nat :=
    match x with
    | .literal l => ofLiteral l
    | .zeroValue t =>
      match d.module.shapeOf t with
      | .scalar s => if s.kind.isInteger then some 0 else none
      | _ => none
    | _ => none
  match d.current.function.expressions.get e with
  | .constant c =>
    return ofExpression (d.module.globalExpressions.get (d.module.constants.get c).init)
  | x => return ofExpression x

/-- An index as an id. -/
def Known.toId : Known → E Nat
  | value n => indexId n
  | id i => return i

/-- What comes of an index: a number, an id, or an id together with a condition. -/
inductive Guarded where
  | known (n : Nat)
  | computed (id : Nat)
  | conditional (index condition : Nat)

def guardIndex (sequence : ExprId) (index : Known) : E Guarded := do
  match (← get).settings.boundsCheck with
  | .unchecked =>
    match index with
    | .value n => return .known n
    | .id i => return .computed i
  | .restrict => do
    match ← lengthOf sequence, index with
    | .value length, .value n => return .known (min n (length - 1))
    | length, _ => do
      let last ← match length with
        | .value n => indexId (n - 1)
        | .id i => do
          let one ← indexId 1
          pushTyped Code.iSub uintTypeId [i, one]
      let i ← index.toId
      return .computed (← pushTyped Code.extInst uintTypeId [arithmeticSet, 38, i, last])
  | .readZeroSkipWrite => do
    match ← lengthOf sequence, index with
    | .value length, .value n =>
      if n < length then return .known n
      else do
        let limit ← indexId length
        let i ← indexId n
        return .conditional i (← pushTyped Code.uLessThan boolTypeId [i, limit])
    | length, _ => do
      let limit ← length.toId
      let i ← index.toId
      return .conditional i (← pushTyped Code.uLessThan boolTypeId [i, limit])

/-- The index of an expression. -/
def guardExpression (sequence index : ExprId) : E Guarded := do
  match ← knownIndex? index with
  | some n => guardIndex sequence (.value n)
  | none => do guardIndex sequence (.id (← idOf index))

/-- One more condition. -/
def both (sofar : Option Nat) (condition : Nat) : E Nat := do
  match sofar with
  | none => return condition
  | some c => pushTyped Code.logicalAnd boolTypeId [c, condition]

/-- A chain of indices from the innermost to the root, with the conditions on the way. -/
structure Chain where
  indices : List Nat := []
  condition : Option Nat := none

def Chain.add (c : Chain) (g : Guarded) : E Chain := do
  match g with
  | .known n => do return { c with indices := (← indexId n) :: c.indices }
  | .computed i => return { c with indices := i :: c.indices }
  | .conditional i test => do
    return ⟨i :: c.indices, some (← both c.condition test)⟩

/-- The root of a pointer, and the indices from the root to it. -/
def chainOf : Nat → ExprId → Chain → E (Nat × Chain)
  | 0, _, _ => fail (.notValidated "pointer")
  | depth + 1, e, c => do
    match ← expressionAt e with
    | .access base index => do
      let c ← c.add (← guardExpression base index)
      chainOf depth base c
    | .accessIndex base index => do
      let ts := (← get).module.types
      let isStruct := match ← shapeOf base with
        | .pointer t _ =>
          match (ts.get t).shape with
          | .struct _ _ => true
          | _ => false
        | _ => false
      let c ←
        if isStruct then do pure { c with indices := (← indexId index) :: c.indices }
        else do c.add (← guardIndex base (.value index))
      chainOf depth base c
    | .globalVariable g => do return (((← get).globals[g]?.getD default).access, c)
    | .localVariable v => do return (((← get).current.locals[v]?).getD 0, c)
    | .functionArgument i => do return (((← get).current.arguments[i]?.getD (0, 0)).1, c)
    | _ => fail (.notValidated "pointer")

/-- A pointer that is ready, or one that may be formed only under a condition. -/
inductive Pointer where
  | ready (id : Nat)
  | conditional (condition id : Nat) (access : List Nat)

def pointerTo (e : ExprId) : E Pointer := do
  let type ← resolvedTypeId (← resolvedOf e)
  let (root, c) ← chainOf (e + 1) e {}
  if c.indices.isEmpty then return .ready root
  else do
    let id ← freshId
    let operands := type :: id :: root :: c.indices
    match c.condition with
    | some test => return .conditional test id operands
    | none => do
      push Code.accessChain operands
      return .ready id

/-- Runs what follows only under a condition; gives the label before it and the label behind it. -/
def startSelection (condition : Nat) : E (Nat × Nat) := do
  let before := (← get).current.label
  let merge ← freshId
  push Code.selectionMerge [merge, 0]
  let inner ← freshId
  endBlock Code.branchConditional [condition, inner, merge]
  startBlock inner
  return (before, merge)

/-- A value that is zero where a condition fails. -/
def conditionalValue (type condition : Nat) (x : E Nat) : E Nat := do
  let null ← nullId type
  let (before, merge) ← startSelection condition
  let value ← x
  let inner := (← get).current.label
  endBlock Code.branch [merge]
  startBlock merge
  pushValue Code.phi type [null, before, value, inner]

def emitLoad (type : Nat) (pointer : ExprId) : E Nat := do
  match ← pointerTo pointer with
  | .ready id => pushValue Code.load type [id]
  | .conditional condition id access =>
    conditionalValue type condition do
      let value ← freshId
      push Code.accessChain access
      push Code.load [type, value, id]
      return value

def emitStore (pointer : ExprId) (value : Nat) : E Unit := do
  match ← pointerTo pointer with
  | .ready id => push Code.store [id, value]
  | .conditional condition id access => do
    let (_, merge) ← startSelection condition
    push Code.accessChain access
    push Code.store [id, value]
    endBlock Code.branch [merge]
    startBlock merge

/-- A component of a vector that is a value. -/
def vectorComponent (type : Nat) (base index : ExprId) : E Nat := do
  let vector ← idOf base
  match ← guardExpression base index with
  | .known n => pushValue Code.compositeExtract type [vector, n]
  | .computed i => pushValue Code.vectorExtractDynamic type [vector, i]
  | .conditional i condition =>
    conditionalValue type condition (pushValue Code.vectorExtractDynamic type [vector, i])

end ShaderConvert.Spirv.Emission
