import ShaderConvert.Ir.Compaction
import ShaderConvert.Number.Power
import ShaderConvert.Wgsl.Lowering.Statement
import ShaderConvert.Wgsl.Order
import ShaderConvert.Wgsl.Parser.Declaration

/-
Declarations, and whole source texts.

Declarations are taken in the order of `Order.sort`, so that every name is known where it is used.
`parseModule` goes from a text to a module.
-/
namespace ShaderConvert.Wgsl.Lowering

open Ir
open Ast (Expr TypeExpr Ident)

def lowerBinding (p : Parts) (type : TypeId) : Option Ast.Binding → L (Option Ir.Binding)
  | none => return none
  | some (.builtIn v) => return some (.builtIn v)
  | some (.location e second interpolation sampling) => do
    let (n, _) ← p.count e
    let shape := (← get).module.shapeOf type
    return some ((Ir.Binding.location n second interpolation sampling).withDefaults shape)

/-- An argument is an expression with a name. -/
def lowerArgument (p : Parts) (index : Nat) (a : Ast.Argument) : L FunctionArgument := do
  let t ← p.type none a.type
  let e ← pushRuntime (.functionArgument index) a.name.place
  modifyDraft fun d => { d with slots := (a.slot, .plain e) :: d.slots }
  nameExpression e a.name.name a.name.place
  let binding ← lowerBinding p t a.binding
  return ⟨some a.name.name, t, binding⟩

/-- The size of a work group; sides that are not given are one. -/
def lowerWorkgroupSize (p : Parts) : Option (List Expr) → L (Nat × Nat × Nat)
  | none => return (0, 0, 0)
  | some es => do
    let sizes ← es.mapM fun e => do return (← p.count e).1
    return (sizes[0]?.getD 1, sizes[1]?.getD 1, sizes[2]?.getD 1)

def lowerFunction (p : Parts) (f : Ast.Function) (place : Span) : L Declared := do
  modify fun s => { s with draft := {} }
  let arguments ← f.arguments.zipIdx.mapM fun (a, i) => lowerArgument p i a
  let result ← f.result.mapM fun (type, binding) => do
    let t ← p.type none type
    return (⟨t, ← lowerBinding p t binding⟩ : FunctionResult)
  modifyDraft fun d => { d with arguments := arguments }
  withPermission .runtime (lowerStmts p false f.body)
  let d := (← get).draft
  let function : Ir.Function :=
    { name := some f.name.name
      arguments, result
      locals := d.locals
      expressions := d.expressions
      namedExpressions := d.named.map fun (e, name, _) => (e, name)
      body := ensureReturn d.block }
  match f.entryPoint with
  | some e => do
    let size ← lowerWorkgroupSize p e.workgroupSize
    modify fun s => { s with module := { s.module with
      entryPoints := s.module.entryPoints
        ++ [⟨f.name.name, e.stage, e.earlyDepthTest, size, function⟩] } }
    return .entryPoint
  | none =>
    modifyGet fun s =>
      (.function s.module.functions.size,
        { s with module := { s.module with functions := s.module.functions.push function place } })

def lowerGlobal (p : Parts) (g : Ast.GlobalVariable) (place : Span) : L Declared := do
  let t ← p.type none g.type
  let init ← g.init.mapM fun e => withPermission .override do
    initializerFor g.name (← p.abstract e) t
  let binding ← g.binding.mapM fun (group, binding) => do
    return (⟨(← p.count group).1, (← p.count binding).1⟩ : ResourceBinding)
  modifyGet fun s =>
    (.var s.module.globals.size,
      { s with module := { s.module with
        globals := s.module.globals.push
          ⟨some g.name.name, g.space.getD .handle, binding, t, init⟩ place } })

def lowerConst (p : Parts) (name : Ident) (type : Option TypeExpr) (init : Expr) (place : Span) :
    L Declared := do
  let (t, e) ← withPermission .constant do
    let e ← p.abstract init
    match type with
    | some t => do
      let t ← p.type none t
      return (t, ← initializerFor name e t)
    | none => do
      let e ← concretize e
      return (← registerType e, e)
  modifyGet fun s =>
    (.const s.module.constants.size,
      { s with module := { s.module with
        constants := s.module.constants.push ⟨some name.name, t, e⟩ place } })

def lowerOverride (p : Parts) (name : Ident) (id : Option Expr) (type : Option TypeExpr)
    (init : Option Expr) (place : Span) : L Declared := do
  let value ← init.mapM fun e => withPermission .override (p.value e)
  let inferred ← value.mapM registerType
  let explicit ← type.mapM (p.type none)
  let id ← id.mapM fun e => do
    let (n, at_) ← p.count e
    if n < twoTo 16 then return n else fail (.constantId at_)
  let t ← match explicit, inferred with
    | some a, some b =>
      if a = b then pure a
      else do fail (.initializationMismatch name.place (← textOfType a) (← textOfType b))
    | some a, none => pure a
    | none, some b => pure b
    | none, none => fail (.missingTypeAndInit name.place)
  modifyGet fun s =>
    (.override s.module.overrides.size,
      { s with module := { s.module with
        overrides := s.module.overrides.push ⟨some name.name, id, t, value⟩ place } })

/-- The members so far, where the next may start, and the alignment of the whole. -/
structure Members where
  members : List StructMember := []
  offset : Nat := 0
  alignment : Nat := 1

def lowerMemberDecl (p : Parts) (k : Members) (m : Ast.Member) : L Members := do
  let t ← p.type none m.type
  let layout ← layoutOf t
  let size ← match m.size with
    | none => pure layout.size
    | some e => do
      let (n, at_) ← p.count e
      if n < layout.size then fail (.sizeTooLow at_ layout.size) else pure n
  let alignment ← match m.align with
    | none => pure layout.alignment
    | some e => do
      let (n, at_) ← p.count e
      if !isPowerOfTwo n then fail (.alignNotPowerOfTwo at_)
      else if n < layout.alignment then fail (.alignTooLow at_ layout.alignment)
      else pure n
  let binding ← lowerBinding p t m.binding
  let offset := roundUp alignment k.offset
  return ⟨k.members ++ [⟨some m.name.name, t, binding, offset⟩], offset + size,
    max k.alignment alignment⟩

def lowerStruct (p : Parts) (name : Ident) (members : List Ast.Member) (place : Span) :
    L Declared := do
  let k ← members.foldlM (lowerMemberDecl p) {}
  return .type (← intern (some name.name)
    (.struct k.members (roundUp k.alignment k.offset)) place)

def lowerDecl (p : Parts) (d : Ast.GlobalDecl) : L Unit := do
  let declared ← match d.decl with
    | .fn f => lowerFunction p f d.place
    | .var g => lowerGlobal p g d.place
    | .const name type init => lowerConst p name type init d.place
    | .override name id type init => lowerOverride p name id type init d.place
    | .struct name members => lowerStruct p name members d.place
    | .typeAlias name type => Declared.type <$> p.type (some name.name) type
  modify fun s => { s with names := (d.decl.name.name, declared) :: s.names }

end ShaderConvert.Wgsl.Lowering

namespace ShaderConvert.Wgsl

/-- The module of a source text. No expression is deeper than the text is long. -/
def parseModule (source : String) : Except Fault Ir.Module := do
  let ds ← Order.sort (← Parser.parse source)
  let p := Lowering.parts (source.length + 1)
  let ((), s) ← (ds.forM (Lowering.lowerDecl p)).run {}
  return s.module.compact

end ShaderConvert.Wgsl
