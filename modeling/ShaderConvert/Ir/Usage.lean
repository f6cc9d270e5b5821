import ShaderConvert.Ir.Typing

/-
What a function does with the expressions and the global variables around it.

`FunctionInfo.ofFunction` finds the type of every expression, how often each is used, what is done
with each global variable, and at which stages the function may run. A function that is called
counts with what it does itself.
-/
namespace ShaderConvert.Ir

/-- What is done with a global variable. -/
structure GlobalUse where
  read : Bool := false
  write : Bool := false
  query : Bool := false
deriving Repr, DecidableEq, Inhabited

namespace GlobalUse

def join (a b : GlobalUse) : GlobalUse := ⟨a.read || b.read, a.write || b.write, a.query || b.query⟩

def isEmpty (u : GlobalUse) : Bool := !u.read && !u.write && !u.query

/-- Is each use among the allowed ones? -/
def within (u allowed : GlobalUse) : Bool :=
  (!u.read || allowed.read) && (!u.write || allowed.write) && (!u.query || allowed.query)

/-- The uses in messages. -/
def title (u : GlobalUse) : String :=
  let names := (if u.read then ["READ"] else []) ++ (if u.write then ["WRITE"] else [])
    ++ (if u.query then ["QUERY"] else [])
  "GlobalUse(" ++ Text.joinWith " | " names ++ ")"

end GlobalUse

/-- Stages that something may run at. -/
structure StageSet where
  vertex : Bool := true
  fragment : Bool := true
  compute : Bool := true
deriving Repr, DecidableEq, Inhabited

namespace StageSet

def all : StageSet := {}

def fragmentOnly : StageSet := ⟨false, true, false⟩

def computeOnly : StageSet := ⟨false, false, true⟩

def inter (a b : StageSet) : StageSet :=
  ⟨a.vertex && b.vertex, a.fragment && b.fragment, a.compute && b.compute⟩

def has (s : StageSet) : ShaderStage → Bool
  | .vertex => s.vertex
  | .fragment => s.fragment
  | .compute => s.compute

end StageSet

structure FunctionInfo where
  types : Array Resolved := #[]
  /-- How often each expression is used. -/
  references : Array Nat := #[]
  globalUses : Array GlobalUse := #[]
  stages : StageSet := .all
deriving Repr, Inhabited

namespace FunctionInfo

def typeOf (i : FunctionInfo) (e : ExprId) : Resolved := i.types[e]?.getD default

def referencesTo (i : FunctionInfo) (e : ExprId) : Nat := i.references[e]?.getD 0

def useOf (i : FunctionInfo) (g : Nat) : GlobalUse := i.globalUses[g]?.getD {}

end FunctionInfo

/-- The types of a list of expressions, each of which only has earlier operands. -/
def typesOf (c : TypingContext) (es : Arena Expression) :
    Except (ExprId × TypingFault) (Array Resolved) :=
  es.entries.foldlM (fun known (i, e) =>
    match typeOfExpression c (fun k => known[k]?.getD default) e with
    | .ok r => .ok (known.push r)
    | .error f => .error (i, f)) #[]

namespace Usage

/-- What a statement does that counts. -/
inductive Event where
  | reads (e : ExprId)
  | writes (e : ExprId)
  | calls (function : Nat)
  | needs (stages : StageSet)

mutual

def ofStatement : Statement → List Event
  | .emit _ _ | .exit | .next => []
  | .block b => ofBlock b
  | .branch c a r => .reads c :: (ofBlock a ++ ofBlock r)
  | .switch s cases => .reads s :: ofCases cases
  | .loop b c breakIf => ofBlock b ++ ofBlock c ++ breakIf.toList.map .reads
  | .ret v => v.toList.map .reads
  | .kill => [.needs .fragmentOnly]
  | .barrier _ _ => [.needs .computeOnly]
  | .store p v => [.writes p, .reads v]
  | .call f args _ => args.map .reads ++ [.calls f]

def ofStatements : List (Statement × Span) → List Event
  | [] => []
  | (s, _) :: rest => ofStatement s ++ ofStatements rest

def ofBlock : Block → List Event
  | .mk ss => ofStatements ss

def ofCases : List SwitchCase → List Event
  | [] => []
  | .mk _ b _ :: rest => ofBlock b ++ ofCases rest

end

/-- The global variable that each expression is a part of or a pointer into. -/
def roots (es : Arena Expression) : Array (Option Nat) :=
  es.toList.foldl (fun known e =>
    known.push (match e with
      | .globalVariable g => some g
      | .access base _ | .accessIndex base _ => known[base]?.getD none
      | _ => none)) #[]

/-- The stages at which an expression has a value. -/
def stagesOf (before : Array FunctionInfo) : Expression → StageSet
  | .imageSample _ _ _ _ .automatic _ | .imageSample _ _ _ _ (.bias _) _ => .fragmentOnly
  | .derivative _ _ _ => .fragmentOnly
  | .callResult f => (before[f]?.getD default).stages
  | _ => .all

def addReference (i : FunctionInfo) (e : ExprId) : FunctionInfo :=
  { i with references := i.references.modify e (· + 1) }

def addUse (i : FunctionInfo) (root : Option Nat) (u : GlobalUse) : FunctionInfo :=
  match root with
  | some g => { i with globalUses := i.globalUses.modify g (·.join u) }
  | none => i

/-- Counts the operands of an expression. A part of a variable does not use the variable yet. -/
def addExpression (before : Array FunctionInfo) (roots : Array (Option Nat)) (i : FunctionInfo)
    (e : Expression) : FunctionInfo :=
  let i := { i with stages := i.stages.inter (stagesOf before e) }
  let i := e.operands.foldl addReference i
  let rootOf (e : ExprId) : Option Nat := roots[e]?.getD none
  let reading (i : FunctionInfo) (e : ExprId) : FunctionInfo :=
    addUse i (rootOf e) { read := true }
  match e with
  | .access _ index => reading i index
  | .accessIndex _ _ => i
  | .arrayLength a => addUse i (rootOf a) { query := true }
  | _ => e.operands.foldl reading i

def addEvent (before : Array FunctionInfo) (roots : Array (Option Nat)) (i : FunctionInfo) :
    Event → FunctionInfo
  | .reads e => addUse (addReference i e) (roots[e]?.getD none) { read := true }
  | .writes e => addUse (addReference i e) (roots[e]?.getD none) { write := true }
  | .calls f =>
    let callee := before[f]?.getD default
    { i with
      globalUses := i.globalUses.mapIdx fun k u => u.join (callee.useOf k)
      stages := i.stages.inter callee.stages }
  | .needs s => { i with stages := i.stages.inter s }

end Usage

open Usage in
/-- What a function does, given what the functions before it do. -/
def FunctionInfo.ofFunction (m : Module) (before : Array FunctionInfo) (f : Function) :
    Except (ExprId × TypingFault) FunctionInfo := do
  let types ← typesOf (.ofFunction m f) f.expressions
  let start : FunctionInfo :=
    { types
      references := Array.replicate f.expressions.size 0
      globalUses := Array.replicate m.globals.size {} }
  let rs := roots f.expressions
  let i := f.expressions.toList.foldl (addExpression before rs) start
  let i := (f.locals.toList.filterMap (·.init)).foldl (fun i e => addEvent before rs i (.reads e)) i
  return (ofBlock f.body).foldl (addEvent before rs) i

/-- What is known of a module: its functions, its entry points and the types of the expressions
outside of functions. -/
structure ModuleInfo where
  functions : Array FunctionInfo := #[]
  entryPoints : Array FunctionInfo := #[]
  globalTypes : Array Resolved := #[]
deriving Repr, Inhabited

end ShaderConvert.Ir
