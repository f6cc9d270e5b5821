import ShaderConvert.Ir.Module

/-
Modules without what nothing refers to.

Variables, named constants, overrides, named types and functions stay, and whatever they use; of
expressions, those that have a name or that a statement uses. The rest goes, places close up, and
every reference follows (`Module.compact`).
-/
namespace ShaderConvert.Ir

/-- A set of places. -/
structure Marks where
  marked : Array Bool
deriving Inhabited

namespace Marks

def none (n : Nat) : Marks := ⟨Array.replicate n false⟩

def has (m : Marks) (i : Nat) : Bool := m.marked[i]?.getD false

def add (m : Marks) (i : Nat) : Marks := ⟨m.marked.modify i fun _ => true⟩

def addAll (m : Marks) (is : List Nat) : Marks := is.foldl add m

/-- The new place of each old one: how many marked places come before it. -/
def places (m : Marks) : Array Nat :=
  (m.marked.foldl (fun (acc : Array Nat × Nat) b =>
    (acc.1.push acc.2, if b then acc.2 + 1 else acc.2)) (#[], 0)).1

end Marks

/-- The marked items of a list. -/
def Arena.keep {α : Type} (a : Arena α) (m : Marks) : Arena α :=
  ⟨(a.items.toList.zipIdx.filterMap fun (x, i) => if m.has i then some x else none).toArray⟩

namespace Arena

def mapItems {α β : Type} (f : α → β) (a : Arena α) : Arena β :=
  ⟨a.items.map fun (x, s) => (f x, s)⟩

end Arena

namespace Compaction

mutual

/-- The expressions that a statement uses itself; `emit` uses none. -/
def usedByStatement : Statement → List ExprId
  | .emit _ _ | .exit | .next | .kill | .barrier _ _ => []
  | .block b => usedByBlock b
  | .branch c a r => c :: usedByBlock a ++ usedByBlock r
  | .switch s cases => s :: usedByCases cases
  | .loop b c breakIf => usedByBlock b ++ usedByBlock c ++ breakIf.toList
  | .ret v => v.toList
  | .store p v => [p, v]
  | .call _ args result => args ++ result.toList

def usedByStatements : List (Statement × Span) → List ExprId
  | [] => []
  | (s, _) :: rest => usedByStatement s ++ usedByStatements rest

def usedByBlock : Block → List ExprId
  | .mk ss => usedByStatements ss

def usedByCases : List SwitchCase → List ExprId
  | [] => []
  | .mk _ b _ :: rest => usedByBlock b ++ usedByCases rest

end

/-- What is used of a module. -/
structure Uses where
  types : Marks
  constants : Marks
  globalExpressions : Marks
deriving Inhabited

/-- Marks what an expression refers to outside of its own list. -/
def Uses.addExpression (m : Module) (u : Uses) : Expression → Uses
  | .zeroValue t | .compose t _ => { u with types := u.types.add t }
  | .constant c =>
    { u with constants := u.constants.add c,
             globalExpressions := u.globalExpressions.add (m.constants.get c).init }
  | .override o =>
    match (m.overrides.get o).init with
    | some e => { u with globalExpressions := u.globalExpressions.add e }
    | none => u
  | _ => u

/-- Marks the operands of marked expressions, from the last expression to the first. -/
def traceList (expressions : Arena Expression) (marks : Marks) : Marks :=
  expressions.entries.reverse.foldl (fun k (i, e) => if k.has i then k.addAll e.operands else k) marks

/-- The expressions of a function that stay. -/
def functionMarks (f : Function) : Marks :=
  let start := Marks.none f.expressions.size
  let direct := f.locals.toList.filterMap (·.init) ++ f.namedExpressions.map (·.1)
    ++ usedByBlock f.body
  traceList f.expressions (start.addAll direct)

/-- Marks what a function uses of its module. -/
def Uses.addFunction (m : Module) (u : Uses) (f : Function) : Uses :=
  let marks := functionMarks f
  let u := { u with types := (((u.types.addAll (f.arguments.map (·.type))).addAll
    (f.result.toList.map (·.type))).addAll (f.locals.toList.map (·.type))) }
  f.expressions.entries.foldl (fun u (i, e) => if marks.has i then u.addExpression m e else u) u

/-- The types that a type is made of. -/
def partTypes : Shape → List TypeId
  | .pointer base _ | .array base _ _ => [base]
  | .struct members _ => members.map (·.type)
  | _ => []

def uses (m : Module) : Uses :=
  let u : Uses := ⟨.none m.types.size, .none m.constants.size, .none m.globalExpressions.size⟩
  let u := m.globals.toList.foldl (fun u g =>
    { u with types := u.types.add g.type,
             globalExpressions := u.globalExpressions.addAll g.init.toList }) u
  let u := m.constants.entries.foldl (fun u (i, c) =>
    if c.name.isSome then
      { u with constants := u.constants.add i,
               globalExpressions := u.globalExpressions.add c.init }
    else u) u
  let u := m.overrides.toList.foldl (fun u o =>
    { u with types := u.types.add o.type,
             globalExpressions := u.globalExpressions.addAll o.init.toList }) u
  let u := m.functions.toList.foldl (Uses.addFunction m) u
  let u := m.entryPoints.foldl (fun u e => u.addFunction m e.function) u
  -- operands of global expressions come before them
  let u := m.globalExpressions.entries.reverse.foldl (fun u (i, e) =>
    if u.globalExpressions.has i then
      let u := u.addExpression m e
      { u with globalExpressions := u.globalExpressions.addAll e.operands }
    else u) u
  let u := m.constants.entries.foldl (fun u (i, c) =>
    if u.constants.has i then { u with types := u.types.add c.type } else u) u
  let u := m.types.entries.foldl (fun u (i, t) =>
    if t.name.isSome then { u with types := u.types.add i } else u) u
  -- parts of types come before them, too
  m.types.entries.reverse.foldl (fun u (i, t) =>
    if u.types.has i then { u with types := u.types.addAll (partTypes t.shape) } else u) u

/-- Where references go. -/
structure Moves where
  types : Nat → Nat
  constants : Nat → Nat
  globalExpressions : Nat → Nat

def Moves.ofUses (u : Uses) : Moves :=
  let at_ (m : Marks) : Nat → Nat :=
    let places := m.places
    fun i => places[i]?.getD 0
  ⟨at_ u.types, at_ u.constants, at_ u.globalExpressions⟩

def Moves.shape (k : Moves) : Shape → Shape
  | .pointer base space => .pointer (k.types base) space
  | .array base n stride => .array (k.types base) n stride
  | .struct members span =>
    .struct (members.map fun m => { m with type := k.types m.type }) span
  | other => other

def Moves.expression (k : Moves) (here : ExprId → ExprId) (e : Expression) : Expression :=
  match e.mapOperands here with
  | .zeroValue t => .zeroValue (k.types t)
  | .compose t components => .compose (k.types t) components
  | .constant c => .constant (k.constants c)
  | other => other

/-- What is left of a range: from its first marked place to behind its last. -/
def moveRange (marks : Marks) (here : ExprId → ExprId) (first stop : ExprId) : ExprId × ExprId :=
  match (List.range' first (stop - first)).filter marks.has with
  | [] => (0, 0)
  | kept@(a :: _) => (here a, here (kept.getLastD a) + 1)

mutual

def moveStatement (marks : Marks) (here : ExprId → ExprId) : Statement → Statement
  | .emit first stop =>
    let (a, b) := moveRange marks here first stop
    .emit a b
  | .block b => .block (moveBlock marks here b)
  | .branch c a r => .branch (here c) (moveBlock marks here a) (moveBlock marks here r)
  | .switch s cases => .switch (here s) (moveCases marks here cases)
  | .loop b c breakIf => .loop (moveBlock marks here b) (moveBlock marks here c) (breakIf.map here)
  | .ret v => .ret (v.map here)
  | .store p v => .store (here p) (here v)
  | .call f args result => .call f (args.map here) (result.map here)
  | .exit => .exit
  | .next => .next
  | .kill => .kill
  | .barrier s w => .barrier s w

def moveStatements (marks : Marks) (here : ExprId → ExprId) :
    List (Statement × Span) → List (Statement × Span)
  | [] => []
  | (s, p) :: rest => (moveStatement marks here s, p) :: moveStatements marks here rest

def moveBlock (marks : Marks) (here : ExprId → ExprId) : Block → Block
  | .mk ss => .mk (moveStatements marks here ss)

def moveCases (marks : Marks) (here : ExprId → ExprId) : List SwitchCase → List SwitchCase
  | [] => []
  | .mk v b f :: rest => .mk v (moveBlock marks here b) f :: moveCases marks here rest

end

def Moves.function (k : Moves) (f : Function) : Function :=
  let marks := functionMarks f
  let places := marks.places
  let here (e : ExprId) : ExprId := places[e]?.getD 0
  { f with
    arguments := f.arguments.map fun a => { a with type := k.types a.type }
    result := f.result.map fun r => { r with type := k.types r.type }
    locals := f.locals.mapItems fun l => { l with type := k.types l.type, init := l.init.map here }
    expressions := (f.expressions.keep marks).mapItems (k.expression here)
    namedExpressions := f.namedExpressions.map fun (e, n) => (here e, n)
    body := moveBlock marks here f.body }

end Compaction

open Compaction in
/-- The module without what nothing refers to. -/
def Module.compact (m : Module) : Module :=
  let u := uses m
  let k := Moves.ofUses u
  { types := (m.types.keep u.types).mapItems fun t => { t with shape := k.shape t.shape }
    constants := (m.constants.keep u.constants).mapItems fun c =>
      { c with type := k.types c.type, init := k.globalExpressions c.init }
    overrides := m.overrides.mapItems fun o =>
      { o with type := k.types o.type, init := o.init.map k.globalExpressions }
    globals := m.globals.mapItems fun g =>
      { g with type := k.types g.type, init := g.init.map k.globalExpressions }
    globalExpressions := (m.globalExpressions.keep u.globalExpressions).mapItems
      (k.expression k.globalExpressions)
    functions := m.functions.mapItems k.function
    entryPoints := m.entryPoints.map fun e => { e with function := k.function e.function } }

end ShaderConvert.Ir
