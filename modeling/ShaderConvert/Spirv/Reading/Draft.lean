import ShaderConvert.Spirv.Reading.Flow

/-
The function that is being read.

Expressions are evaluated by an `emit` before the next statement that is written (`flush`). A value
that is used where its body cannot be seen is kept in a local variable of its own (`use`); this is
settled together with the values that depend on where a block was reached from (`Phi`).
-/
namespace ShaderConvert.Spirv.Reading

open Ir

/-- A value: an expression, the id of its type, and the block that defines it. -/
structure Value where
  expr : ExprId
  typeId : Nat
  label : Nat
deriving Repr, Inhabited

/-- A local variable that gets one of some values, each at the end of a block. -/
structure Phi where
  index : Nat
  sources : List (Nat × Nat)
deriving Repr, Inhabited

/-- How the value behind a pointer into a matrix that is stored by rows is got: the matrix is loaded
whole and turned around. -/
inductive Turned where
  | pending
  | loaded (e : ExprId)
deriving Repr, DecidableEq

structure Draft where
  id : Nat
  function : Function
  values : Table Value
  /-- Images with the samplers that they are used with. -/
  sampled : Table (ExprId × ExprId) := []
  turned : Table Turned := []
  phis : List Phi := []
  blocks : Table Statements := []
  bodyOf : Table Nat := []
  merges : Table Merge := []
  bodies : Array Body := #[⟨0, []⟩]
  /-- The block that is being read, and its body. -/
  label : Nat := 0
  body : Nat := 0
  statements : Statements := []
  /-- The first expression that has not been evaluated. -/
  pending : ExprId := 0
  /-- Where the selection ends that has just been announced. -/
  selectionEnd : Option Nat := none

abbrev Drafting := StateT Draft Read

def reader : Drafting Reader := liftM (get : Read Reader)

def append (e : Expression) (place : Span) : Drafting ExprId :=
  modifyGet fun d =>
    (d.function.expressions.size,
      { d with function := { d.function with expressions := d.function.expressions.push e place } })

def pushStatement (s : Statement) (place : Span) : Drafting Unit :=
  modify fun d => { d with statements := d.statements ++ [(s, place)] }

/-- Expressions up to here are not evaluated by an `emit`. -/
def skipPending : Drafting Unit :=
  modify fun d => { d with pending := d.function.expressions.size }

/-- Evaluates the expressions since the last time. -/
def flush : Drafting Unit := do
  let d ← get
  let stop := d.function.expressions.size
  if d.pending ≠ stop then
    let places := (List.range' d.pending (stop - d.pending)).map d.function.expressions.span
    pushStatement (.emit d.pending stop) (places.foldl Span.cover .undefined)
  skipPending

def addLocal (v : LocalVariable) (place : Span) : Drafting Nat :=
  modifyGet fun d =>
    (d.function.locals.size,
      { d with function := { d.function with locals := d.function.locals.push v place } })

def findValue (id : Nat) : Drafting Value := do find (← get).values id

def define (id typeId : Nat) (e : ExprId) : Drafting Unit :=
  modify fun d => { d with values := (id, ⟨e, typeId, d.label⟩) :: d.values }

def bodyOfLabel (label : Nat) : Drafting Nat := do return ((← get).bodyOf.lookup label).getD 0

/-- Can a body see what another one defines? -/
def sees (body definer : Nat) : Drafting Bool := do
  let bodies := (← get).bodies
  return isWithin bodies (bodies.size + 1) body definer

def modifyBody (body : Nat) (f : Body → Body) : Drafting Unit :=
  modify fun d => { d with bodies := d.bodies.modify body f }

def addFragments (body : Nat) (fs : List Fragment) : Drafting Unit :=
  modifyBody body fun b => { b with fragments := b.fragments ++ fs }

def addBody (parent : Nat) (fragments : List Fragment) : Drafting Nat :=
  modifyGet fun d => (d.bodies.size, { d with bodies := d.bodies.push ⟨parent, fragments⟩ })

def setBodyOf (label body : Nat) : Drafting Unit :=
  modify fun d => { d with bodyOf := (label, body) :: d.bodyOf }

/-- The first body that a block is put into stays. -/
def offerBodyOf (label body : Nat) : Drafting Unit := do
  if ((← get).bodyOf.lookup label).isNone then setBodyOf label body

def setMerge (label : Nat) (m : Merge) : Drafting Unit :=
  modify fun d => { d with merges := (label, m) :: d.merges }

/-- The type of the values of an id, which has to be there. -/
def typeOfValue (typeId : Nat) : Drafting TypeId := do
  match (← reader).types.lookup typeId with
  | some t => return t.type
  | none => throw .noEntry

/-- The expression of a value, for use in the block that is being read. -/
def use (id : Nat) (v : Value) : Drafting ExprId := do
  let d ← get
  let definer ← bodyOfLabel v.label
  if ← sees d.body definer then return v.expr
  let type ← typeOfValue v.typeId
  let index ← addLocal ⟨none, type, none⟩ .undefined
  flush
  let pointer ← append (.localVariable index) .undefined
  skipPending
  let e ← append (.load pointer) .undefined
  -- as if the block of the value jumped here
  modify fun d => { d with phis := d.phis ++ [⟨index, [(id, v.label)]⟩] }
  return e

/-- Looks a value up and uses it. -/
def operand (id : Nat) : Drafting ExprId := do use id (← findValue id)

def nextOperand : Drafting ExprId := do operand (← next)

/-- Puts the block that has been read into its body. -/
def closeBlock : Drafting Unit := do
  flush
  let d ← get
  set { d with blocks := (d.label, d.statements) :: d.blocks, statements := [] }
  addFragments d.body [.block d.label]

/-- Appends statements to a block that has been read. -/
def extendBlock (label : Nat) (ss : Statements) : Drafting Unit := do
  let d ← get
  match d.blocks.lookup label with
  | some old =>
    set { d with blocks := (label, old ++ ss) :: d.blocks.filter (·.1 ≠ label) }
  | none => throw .noValue

end ShaderConvert.Spirv.Reading
