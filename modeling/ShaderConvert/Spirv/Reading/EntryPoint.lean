import ShaderConvert.Number.Power
import ShaderConvert.Spirv.Reading.Function

/-
Entry points.

An entry point gets a function of its own. It stores its arguments into the private variables that
stand for the inputs, calls the function that was read, and returns what the variables that stand for
the outputs hold: one value, or a struct of several.
-/
namespace ShaderConvert.Spirv.Reading

open Ir

/-- The function of an entry point while it is put together. -/
abbrev Wrapping := StateT Function Read

namespace Wrapping

/-- Adds an expression. -/
def compute (e : Expression) (place : Span) : Wrapping ExprId :=
  modifyGet fun f => (f.expressions.size, { f with expressions := f.expressions.push e place })

def push (s : Statement) (place : Span) : Wrapping Unit :=
  modify fun f => { f with body := f.body.push s place }

def spanOf (e : ExprId) : Wrapping Span := do return (← get).expressions.span e

/-- Evaluates the expressions from a place on. -/
def emitFrom (first : ExprId) : Wrapping Unit := do
  let f ← get
  let stop := f.expressions.size
  if first ≠ stop then
    let places := (List.range' first (stop - first)).map f.expressions.span
    push (.emit first stop) (places.foldl Span.cover .undefined)

end Wrapping

open Wrapping

/-- Stores an input. The program may take an unsigned value as signed. -/
def storeInput (stage : ShaderStage) (v : KnownVariable) (a : FunctionArgument) : Wrapping Unit := do
  let m := (← liftM (get : Read Reader)).module
  let place := m.globals.span v.index
  let index := (← get).arguments.length
  let e ← compute (.functionArgument index) place
  let value ←
    if a.type = (m.globals.get v.index).type then pure e
    else do
      let c ← compute (.convert e .sint (some 4)) place
      emitFrom c
      pure c
  let pointer ← compute (.globalVariable v.index) place
  push (.store pointer value) place
  let shape := m.shapeOf a.type
  let binding := if stage = .fragment then a.binding.map (·.withDefaults shape) else a.binding
  modify fun f => { f with arguments := f.arguments ++ [{ a with binding }] }

/-- A struct without the bindings of built-in values that the program never reaches. -/
def dropUnreached (reached : List BuiltIn) : Shape → Shape
  | .struct members span =>
    .struct (members.map fun m =>
      match m.binding with
      | some (.builtIn b) => if reached.contains b then m else { m with binding := none }
      | _ => m) span
  | other => other

def replaceShape (t : TypeId) (shape : Shape) : Read Unit :=
  modify fun r =>
    { r with module :=
      { r.module with types := r.module.types.modify t fun x => { x with shape } } }

/-- The members that an output adds to the result, each with a pointer to its value. -/
def collectOutput (stage : ShaderStage) (v : KnownVariable) (result : FunctionResult) :
    Wrapping (List (StructMember × ExprId)) := do
  let r ← liftM (get : Read Reader)
  let place := r.module.globals.span v.index
  let pointer ← compute (.globalVariable v.index) place
  let shape := dropUnreached r.reached (r.module.shapeOf result.type)
  replaceShape result.type shape
  let bind (b : Option Binding) (s : Shape) : Option Binding :=
    if stage = .vertex then b.map (·.withDefaults s) else b
  match shape with
  | .struct members _ =>
    let bound := members.zipIdx.filter (·.1.binding.isSome)
    bound.mapM fun (m, i) => do
      let e ← compute (.accessIndex pointer i) place
      return ({ m with binding := bind m.binding (r.module.shapeOf m.type) }, e)
  | _ => return [(⟨none, result.type, bind result.binding shape, 0⟩, pointer)]

def isPosition : Option Binding → Bool
  | some (.builtIn (.position _)) => true
  | _ => false

/-- Turns the second coordinate of a position around. -/
def flipPosition (pointer : ExprId) : Wrapping Unit := do
  let place ← spanOf pointer
  let part ← compute (.accessIndex pointer 1) place
  let old ← compute (.load part) place
  let flipped ← compute (.unary .negate old) place
  emitFrom part
  push (.store part flipped) place

/-- The size of a struct that is only ever returned does not matter. -/
def resultSpan : Nat := 0xFFFF

def returnOutputs (outputs : List (StructMember × ExprId)) : Wrapping Unit := do
  let first := (← get).expressions.size
  let values ← outputs.mapM fun (_, pointer) => do compute (.load pointer) (← spanOf pointer)
  match outputs, values with
  | [], _ | _, [] => return ()
  | [(member, _)], value :: _ => do
    emitFrom first
    push (.ret (some value)) (← spanOf value)
    modify fun f => { f with result := some ⟨member.type, member.binding⟩ }
  | _, _ => do
    let place := (← values.mapM spanOf).foldl Span.cover .undefined
    let type ← internType ⟨none, .struct (outputs.map (·.1)) resultSpan⟩ place
    let e ← compute (.compose type values) place
    emitFrom first
    push (.ret (some e)) place
    modify fun f => { f with result := some ⟨type, none⟩ }

/-- The id under which an entry point calls its function; no function has it. -/
def callerId (index : Nat) : Nat := twoTo 32 - 1 - index

def wrap (e : Announced) (id : Nat) : Wrapping Unit := do
  let find_ (v : Nat) : Wrapping KnownVariable := do
    find (← liftM (get : Read Reader)).globals v
  e.interface.forM fun id => do
    let v ← find_ id
    match v.role with
    | .input a => storeInput e.stage v a
    | _ => return ()
  let r ← liftM (get : Read Reader)
  let call ← addCall (callerId r.module.entryPoints.length) id
  push (.call call [] none) .undefined
  let outputs ← e.interface.mapM fun id => do
    let v ← find_ id
    match v.role with
    | .output result => collectOutput e.stage v result
    | _ => return []
  let outputs := outputs.flatten
  if r.settings.adjustCoordinateSpace then
    (outputs.filter (isPosition ·.1.binding)).forM fun (_, pointer) => flipPosition pointer
  returnOutputs outputs

def addEntryPoint (e : Announced) (id : Nat) : Read Unit := do
  let (_, function) ← (wrap e id).run { name := some (e.name ++ "_wrap") }
  modify fun r =>
    { r with module :=
      { r.module with entryPoints := r.module.entryPoints ++
        [⟨e.name, e.stage, e.earlyDepthTest, e.workgroupSize, function⟩] } }

end ShaderConvert.Spirv.Reading
