import ShaderConvert.Ir.Validity.Interface

/-
Valid modules.

`Module.check` goes through a module in a fixed order (types, expressions outside of functions,
constants, overrides, variables, functions, entry points) and gives what is known of it or the first
fault. A fault names the item that it is in, and each item with a place in the source is a labelled
range.
-/
namespace ShaderConvert.Ir

namespace Validity

/-- A fault of an item of a module. -/
def itemFault {α : Type} (item : String) (label : String) (place : Span) (index : Nat)
    (causes : List String) : Verdict α :=
  .error (.ofSpans ((item ++ " is invalid") :: causes) [(place, handleLabel label index)])

/-- An item with its index and its name. -/
def titled (kind : String) (index : Nat) (name : Option String) : String :=
  kind ++ s!" [{index}] '" ++ name.getD "" ++ "'"

/-- Expressions outside of functions have to be values, or wait for the pipeline. -/
def checkConstantExpression (m : Module) (types : Array Resolved) (e : Expression) :
    Except (List String) Unit :=
  match e with
  | .literal l =>
    match checkLiteral l with
    | .ok () => .ok ()
    | .error f => .error f.texts
  | .constant _ | .zeroValue _ | .override _ => .ok ()
  | .compose t parts =>
    match checkCompose m.types t (parts.map fun p => types[p]?.getD default) with
    | .ok () => .ok ()
    | .error f => .error [f.message]
  | .splat _ value =>
    match (types[value]?.getD default).shapeIn m.types with
    | .scalar _ => .ok ()
    | _ => .error (ExpressionFault.splatType value).texts
  | _ => .ok ()

def checkConstant (m : Module) (typeInfo : Array TypeInfo) (types : Array Resolved)
    (c : Constant) : Except (List String) Unit :=
  if !(typeInfo[c.type]?.getD default).flags.has .constructible then
    .error ["The type is not constructible"]
  else if !((m.shapeOf c.type).equivalent m.types
      ((types[c.init]?.getD default).shapeIn m.types)) then
    .error ["The type doesn't match the constant"]
  else .ok ()

def checkOverride (m : Module) (types : Array Resolved) (seen : List Nat) (o : Override) :
    Except (List String) (List Nat) := do
  if o.name.isNone && o.id.isNone then .error ["Override name and ID are missing"]
  else if o.id.any seen.contains then .error ["Override ID must be unique"]
  else
    match m.shapeOf o.type with
    | .scalar _ => .ok ()
    | _ => .error ["The type is not a scalar"]
    match o.init with
    | some e =>
      if (m.shapeOf o.type).equivalent m.types ((types[e]?.getD default).shapeIn m.types) then .ok ()
      else .error ["The type doesn't match the override"]
    | none => .ok ()
    return seen ++ o.id.toList

/-- The types, with what can be done with each. -/
def checkTypes (m : Module) : Verdict (Array TypeInfo) := do
  let layouts ← match m.layouts with
    | .ok ls => .ok ls
    | .error (t, f) =>
      .error (.ofSpans [s!"Error laying out type [{t}]: " ++ f.message]
        [(m.types.span t, handleLabel "Type" t)])
  match TypeInfo.ofTypes m.types layouts with
  | .ok infos => return infos
  | .error (t, f) =>
    itemFault (titled "Type" t (m.typeOf t).name) "Type" (m.types.span t) t [f.message]

/-- The expressions outside of functions, with their types. -/
def checkGlobalExpressions (m : Module) : Verdict (Array Resolved) := do
  let es := m.globalExpressions
  let wrong {α : Type} (i : ExprId) (causes : List String) : Verdict α :=
    itemFault s!"Constant expression [{i}]" "Expression" (es.span i) i causes
  let types ← match typesOf (.ofModule m) es with
    | .ok ts => .ok ts
    | .error (i, f) => wrong i (ExpressionFault.typing f).texts
  es.entries.forM fun (i, e) =>
    match checkConstantExpression m types e with
    | .ok () => .ok ()
    | .error causes => wrong i causes
  return types

def checkConstants (m : Module) (typeInfo : Array TypeInfo) (types : Array Resolved) :
    Verdict Unit := do
  m.constants.entries.forM fun (i, c) =>
    match checkConstant m typeInfo types c with
    | .ok () => .ok ()
    | .error causes =>
      itemFault (titled "Constant" i c.name) "Constant" (m.constants.span i) i causes
  discard (m.overrides.entries.foldlM (fun seen (i, o) =>
    match checkOverride m types seen o with
    | .ok seen => .ok seen
    | .error causes =>
      itemFault (titled "Override" i o.name) "Override" (m.overrides.span i) i causes) [])

def checkGlobals (m : Module) (typeInfo : Array TypeInfo) (types : Array Resolved) :
    Verdict Unit :=
  let kinds := kindsOf m.globalExpressions
  m.globals.entries.forM fun (i, v) =>
    match checkGlobal m typeInfo types kinds v with
    | .ok () => .ok ()
    | .error f =>
      itemFault (titled "Global variable" i v.name) "GlobalVariable" (m.globals.span i) i f.texts

def checkFunctions (m : Module) (typeInfo : Array TypeInfo) : Verdict (Array FunctionInfo) :=
  m.functions.entries.foldlM (fun before (i, f) =>
    match checkFunction m typeInfo before false f with
    | .ok info => .ok (before.push info)
    | .error e =>
      .error (e.under (titled "Function" i f.name ++ " is invalid")
        [(m.functions.span i, handleLabel "Function" i)])) #[]

/-- Entry points; two of one stage have different names. -/
def checkEntryPoints (m : Module) (typeInfo : Array TypeInfo) (functions : Array FunctionInfo) :
    Verdict (Array FunctionInfo) :=
  m.entryPoints.zipIdx.foldlM (fun infos (e, i) =>
    if (m.entryPoints.take i).any fun d => d.stage == e.stage && d.name == e.name then
      .error (.ofSpans (EntryPointFault.conflict.causes e.stage e.name) [])
    else do
      return infos.push (← checkEntryPoint m typeInfo functions e)) #[]

end Validity

open Validity in
/-- Is the module valid, and what is known of it? -/
def Module.check (m : Module) : Except Invalidity ModuleInfo := do
  let typeInfo ← checkTypes m
  let types ← checkGlobalExpressions m
  checkConstants m typeInfo types
  checkGlobals m typeInfo types
  let functions ← checkFunctions m typeInfo
  let entryPoints ← checkEntryPoints m typeInfo functions
  return ⟨functions, entryPoints, types⟩

end ShaderConvert.Ir
