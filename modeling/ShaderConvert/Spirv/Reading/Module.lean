import ShaderConvert.Spirv.Reading.EntryPoint

/-
Whole modules.

`parseBinary` reads a module word by word. When all functions are read, they are put into an order in
which each comes after the ones that it calls, and the calls are made to refer to their places
(`settleCalls`).
-/
namespace ShaderConvert.Spirv.Reading

open Ir

namespace CallGraph

def callees (g : CallGraph) (n : Nat) : List Nat :=
  g.edges.filterMap fun (a, b) => if a = n then some b else none

def callers (g : CallGraph) (n : Nat) : List Nat :=
  g.edges.filterMap fun (a, b) => if b = n then some a else none

/-- A walk through a graph: what is still to be looked at, what has been found, and what has been left
for good, in that order. -/
structure Walk where
  stack : List Nat
  found : List Nat := []
  left : List Nat := []

/-- A node is left once everything that it calls has been. The first argument bounds the steps. -/
def walk (g : CallGraph) : Nat → Walk → Except Fault Walk
  | 0, w => .ok w
  | fuel + 1, w =>
    match w.stack with
    | [] => .ok w
    | n :: rest =>
      if w.found.contains n then
        walk g fuel { w with stack := rest, left := if w.left.contains n then w.left else w.left ++ [n] }
      else
        let cs := g.callees n
        if cs.contains n then .error (.callCycle n)
        else
          let found := n :: w.found
          let more := cs.filter fun c => !found.contains c
          walk g fuel { w with stack := more.reverse ++ w.stack, found }

/-- Every node, each after the ones that it calls. -/
def order (g : CallGraph) : Except Fault (List Nat) := do
  let steps := 2 * (g.nodes.length + g.edges.length) + 2
  let w ← g.nodes.foldlM (fun w n =>
    if w.found.contains n then .ok w else walk g steps { w with stack := [n] }) ⟨[], [], []⟩
  -- from the callers down, no caller may be left over
  discard (w.left.reverse.foldlM (fun (seen : List Nat) n =>
    let seen := n :: seen
    match ((g.callers n).filter fun c => !seen.contains c).getLast? with
    | some c => .error (.callCycle c)
    | none => .ok seen) [])
  return w.left

end CallGraph

mutual

def settleStatement (place : Nat → Nat) : Statement → Statement
  | .block b => .block (settleBlock place b)
  | .branch c a r => .branch c (settleBlock place a) (settleBlock place r)
  | .switch s cases => .switch s (settleCases place cases)
  | .loop b c e => .loop (settleBlock place b) (settleBlock place c) e
  | .call f args result => .call (place f) args result
  | other => other

def settleStatements (place : Nat → Nat) : List (Statement × Span) → List (Statement × Span)
  | [] => []
  | (s, at_) :: rest => (settleStatement place s, at_) :: settleStatements place rest

def settleBlock (place : Nat → Nat) : Block → Block
  | .mk ss => .mk (settleStatements place ss)

def settleCases (place : Nat → Nat) : List SwitchCase → List SwitchCase
  | [] => []
  | .mk v b t :: rest => .mk v (settleBlock place b) t :: settleCases place rest

end

/-- A function whose calls refer to places of functions. -/
def settleFunction (place : Nat → Nat) (f : Function) : Function :=
  let settle : Expression → Expression
    | .callResult k => .callResult (place k)
    | other => other
  { f with
    expressions := ⟨f.expressions.items.map fun (e, s) => (settle e, s)⟩
    body := settleBlock place f.body }

/-- Orders the functions and settles all calls. -/
def settleCalls (r : Reader) : Except Fault Module := do
  let m := r.module
  let nodes ← r.graph.order
  let ids := nodes.filter (· ≤ callerId m.functions.size)
  let old ← ids.mapM fun id =>
    match r.functions.lookup id with
    | some i => .ok i
    | none => .error .noValue
  let place (call : Nat) : Nat := (ids.idxOf? ((r.calls[call]?).getD 0)).getD 0
  let functions := old.map fun i => (settleFunction place (m.functions.get i), m.functions.span i)
  return { m with
    functions := ⟨functions.toArray⟩
    entryPoints := m.entryPoints.map fun e =>
      { e with function := settleFunction place e.function } }

/-- An instruction outside of functions. -/
def readTopLevel (h : Head) : Read Unit :=
  match h.number with
  | Code.capability => readCapability h
  | Code.extension => readExtension h
  | Code.extInstImport => readImport h
  | Code.memoryModel => readMemoryModel h
  | Code.entryPoint => readEntryPoint h
  | Code.executionMode => readExecutionMode h
  | Code.string => readString h
  | Code.source => readSource h
  | Code.sourceExtension => readSourceExtension h
  | Code.name => readName h
  | Code.memberName => readMemberName h
  | Code.moduleProcessed => readModuleProcessed h
  | Code.decorate => readDecorate h
  | Code.memberDecorate => readMemberDecorate h
  | Code.typeVoid => readVoid h
  | Code.typeBool => readBool h
  | Code.typeInt => readInt h
  | Code.typeFloat => readFloat h
  | Code.typeVector => readVector h
  | Code.typeMatrix => readMatrix h
  | Code.typeFunction => readFunctionType h
  | Code.typePointer => readPointer h
  | Code.typeArray => readArray h
  | Code.typeRuntimeArray => readRuntimeArray h
  | Code.typeStruct => readStruct h
  | Code.typeImage => readImage h
  | Code.typeSampledImage => readSampledImage h
  | Code.typeSampler => readSampler h
  | Code.constant | Code.specConstant => readConstant h
  | Code.constantComposite => readComposite h
  | Code.constantNull | Code.undef => readNull h
  | Code.constantTrue | Code.specConstantTrue => readTruth h true
  | Code.constantFalse | Code.specConstantFalse => readTruth h false
  | Code.variable_ => readVariable h
  | Code.function => readFunction h
  | _ => refuse h

/-- Reads instructions up to the end. The first argument bounds their number. -/
def readAll : Nat → Read Unit
  | 0 => return ()
  | fuel + 1 => do
    if (← get).words.isEmpty then return ()
    let h ← nextHead
    readTopLevel h
    readAll fuel

/-- The words before the first instruction; only the first of them matters. -/
def readHeader : Read Unit := do
  if (← next) ≠ Words.magic.toNat then throw .header
  discard (nextMany 4)

def readModule : Read Unit := do
  readHeader
  readAll (← get).words.length
  (← get).ready.forM fun (e, id) => addEntryPoint e id

end Reading

/-- The module that words stand for. -/
def parseBinary (settings : ReadSettings) (ws : List Word) : Except Reading.Fault Ir.Module := do
  let (_, r) ← Reading.readModule.run { settings, words := ws }
  Reading.settleCalls r

end ShaderConvert.Spirv
