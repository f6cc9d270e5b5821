import ShaderConvert.Spirv.Reading.Block

/-
Functions.

The expressions of a function start with one for each global variable and each constant. After all
blocks are read, the values that depend on where a block was reached from are stored at the end of
the blocks that lead there.
-/
namespace ShaderConvert.Spirv.Reading

open Ir

/-- One expression for each global variable and each constant, in order of appearance. -/
def startValues (r : Reader) : Arena Expression × Table Value :=
  let globals := r.globals.reverse.map fun (id, v) =>
    (id, v.typeId, Expression.globalVariable v.index, r.module.globals.span v.index)
  let constants := r.constants.reverse.map fun (id, c) =>
    let place := match c.place with
      | .constant i => r.module.constants.span i
      | .override i => r.module.overrides.span i
    (id, c.typeId, c.place.expression, place)
  (globals ++ constants).foldl (fun (es, values) (id, typeId, e, place) =>
    (es.push e place, (id, ⟨es.size, typeId, 0⟩) :: values)) (.empty, [])

/-- The parameters have the types that the type of the function says. -/
def readParameter (expected : Nat) : Drafting Unit := do
  let h ← nextHead
  if h.number ≠ Code.functionParameter || h.count ≠ 3 then throw (.parameter h.name)
  let typeId ← next
  let id ← next
  let index := (← get).function.arguments.length
  let e ← append (.functionArgument index) h.span
  modify fun d => { d with values := (id, ⟨e, typeId, 0⟩) :: d.values }
  if typeId ≠ expected then throw (.functionArgument typeId)
  let t ← findType typeId
  let d ← takeDecorations id
  modify fun x =>
    { x with function :=
      { x.function with arguments := x.function.arguments ++ [⟨d.name, t.type, none⟩] } }

/-- Reads blocks up to the end of the function. The first argument bounds their number. -/
def readBlocks : Nat → Drafting Unit
  | 0 => throw .incomplete
  | fuel + 1 => do
    let h ← nextHead
    match h.number with
    | Code.line => do
      h.expect 4
      discard (nextMany 3)
      readBlocks fuel
    | Code.label => do
      h.expect 2
      readBlock (← next)
      readBlocks fuel
    | Code.functionEnd => h.expect 1
    | _ => refuse h

/-- The value of a source at the end of a block that leads to where it is used. A value that cannot be
seen there goes through a local variable. -/
def sourceAt (label : Nat) (v : Value) : Drafting ExprId := do
  let d ← get
  let here ← match d.bodyOf.lookup label with
    | some b => pure b
    | none => throw .noEntry
  if ← sees here (← bodyOfLabel v.label) then return v.expr
  let type ← typeOfValue v.typeId
  let index ← addLocal ⟨none, type, none⟩ .undefined
  let pointer ← append (.localVariable index) .undefined
  let e ← append (.load pointer) .undefined
  extendBlock label [(.emit e (e + 1), .undefined)]
  extendBlock v.label [(.store pointer v.expr, .undefined)]
  return e

/-- Stores the values that a local variable gets, each at the end of its block. -/
def settlePhi (p : Phi) : Drafting Unit := do
  let pointer ← append (.localVariable p.index) .undefined
  p.sources.forM fun (id, label) => do
    match (← get).values.lookup id with
    | none => throw .noEntry
    | some v =>
      let e ← sourceAt label v
      extendBlock label [(.store pointer e, .undefined)]

/-- Reads the body of a function. -/
def readBody (parameters : List Nat) : Drafting Function := do
  parameters.forM readParameter
  let d ← get
  liftM (m := Read) (modify fun r => { r with graph := r.graph.addNode d.id })
  readBlocks ((← reader).words.length + 1)
  (← get).phis.forM settlePhi
  let d ← get
  let (body, _) := (assemble d.bodies (d.bodies.size + 1) 0).run d.blocks
  return { d.function with body := .mk body }

def readFunction (h : Head) : Read Unit := do
  enter .function h
  h.expect 5
  let resultId ← next
  let id ← next
  discard next
  let typeId ← next
  let r ← get
  let ft ← find r.functionTypes typeId
  if ft.result ≠ resultId then throw (.functionResult resultId)
  let d ← takeDecorations id
  let result ←
    if r.voidType = some resultId then pure none
    else do
      let t ← findType resultId
      pure (some (FunctionResult.mk t.type none))
  let (expressions, values) := startValues r
  let draft : Draft := { id, values, function := { name := d.name, result, expressions } }
  let (f, _) ← (readBody ft.parameters).run draft
  modify fun r =>
    { r with
      functions := (id, r.module.functions.size) :: r.functions
      module := { r.module with functions := r.module.functions.push f h.span } }
  let r ← get
  match r.entryPoints.lookup id with
  | some e =>
    set { r with
      ready := r.ready ++ [(e, id)]
      entryPoints := r.entryPoints.filter (·.1 ≠ id) }
  | none => return ()

end ShaderConvert.Spirv.Reading
