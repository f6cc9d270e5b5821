import ShaderConvert.Wgsl.Writer.Statement

/-
Modules as source text.

Structs come first, then named constants, global variables, functions and entry points. A blank line
ends each struct, each group of declarations and each function, but not the last entry point.
-/
namespace ShaderConvert.Wgsl.Writer

open Ir

def interpolationText (interpolation : Option Interpolation) (sampling : Option Sampling) :
    String :=
  match sampling, interpolation with
  | some .centroid, i | some .sample, i =>
    "@interpolate(" ++ (i.getD .perspective).sourceName ++ ", "
      ++ (sampling.map (·.sourceName)).getD "" ++ ") "
  | _, some .linear => "@interpolate(linear) "
  | _, some .flat => "@interpolate(flat) "
  | _, _ => ""

def bindingText : Binding → Except Fault String
  | .builtIn b =>
    match b.sourceName? with
    | some name =>
      .ok ("@builtin(" ++ name ++ ") " ++ (if b = .position true then "@invariant " else ""))
    | none => .error (.builtIn b)
  | .location n second interpolation sampling =>
    .ok (s!"@location({n}) " ++ (if second then "@second_blend_source " else "")
      ++ interpolationText interpolation sampling)

def bindingText? : Option Binding → Except Fault String
  | some b => bindingText b
  | none => .ok ""

def structLines (s : Scope) (t : TypeId) (members : List StructMember) :
    Except Fault (List String) := do
  let names := s.names.members[t]?.getD []
  let inner ← members.zipIdx.mapM fun (m, i) => do
    let b ← bindingText? m.binding
    return line 1 (b ++ names[i]?.getD "" ++ ": " ++ s.typeText m.type ++ ",")
  return ("struct " ++ s.names.types[t]?.getD "" ++ " \x7b") :: inner ++ ["\x7d", ""]

def constantLine (s : Scope) (i : Nat) (k : Constant) : Except Fault String := do
  let init ← s.constantText k.init
  return "const " ++ s.names.constants[i]?.getD "" ++ ": " ++ s.typeText k.type ++ " = " ++ init
    ++ ";"

def initText (s : Scope) : Option ExprId → Except Fault String
  | some e => (" = " ++ ·) <$> s.constantText e
  | none => .ok ""

def globalLines (s : Scope) (i : Nat) (g : GlobalVariable) : Except Fault (List String) := do
  let place := (g.binding.map fun b => [s!"@group({b.group}) @binding({b.binding}) "]).getD []
  let space :=
    match spaceText g.space with
    | (some name, access) => "<" ++ name ++ ((access.map (", " ++ ·)).getD "") ++ ">"
    | (none, _) => ""
  let init ← initText s g.init
  return place ++ ["var" ++ space ++ " " ++ s.names.globals[i]?.getD "" ++ ": " ++ s.typeText g.type
    ++ init ++ ";"]

def argumentText (c : Frame) (a : FunctionArgument) (i : Nat) : Except Fault String := do
  let b ← bindingText? a.binding
  return b ++ c.names.arguments[i]?.getD "" ++ ": " ++ c.scope.typeText a.type

def resultText (c : Frame) : Option FunctionResult → Except Fault String
  | some r => do
    let b ← bindingText? r.binding
    return " -> " ++ b ++ c.scope.typeText r.type
  | none => .ok ""

def localLine (c : Frame) (v : LocalVariable) (i : Nat) : Except Fault String := do
  let init ← match v.init with
    | some e => (" = " ++ ·) <$> c.expressionText [] .value e
    | none => pure ""
  return line 1 ("var " ++ c.names.locals[i]?.getD "" ++ ": " ++ c.scope.typeText v.type ++ init
    ++ ";")

/-- The lines of a function, and the identifiers in use after it. -/
def functionLines (c : Frame) (identifiers : Identifiers) :
    Except Fault (List String × Identifiers) := do
  let arguments ← c.function.arguments.zipIdx.mapM fun (a, i) => argumentText c a i
  let result ← resultText c c.function.result
  let locals ← c.function.locals.entries.mapM fun (i, v) => localLine c v i
  let gap := if locals.isEmpty then [] else [""]
  let (body, after) ← (blockLines c 1 c.function.body).run { identifiers }
  let head := "fn " ++ callText c.names.name arguments ++ result ++ " \x7b"
  return (head :: locals ++ gap ++ body ++ ["\x7d"], after.identifiers)

def stageLine (e : EntryPoint) : String :=
  let (x, y, z) := e.workgroupSize
  "@" ++ e.stage.name ++ " "
    ++ (if e.stage = .compute then s!"@workgroup_size({x}, {y}, {z}) " else "")

/-- A group of declarations, with a blank line after it if there are any. -/
def grouped (lines : List String) : List String := if lines.isEmpty then [] else lines ++ [""]

def moduleLines (s : Scope) (info : ModuleInfo) (identifiers : Identifiers) :
    Except Fault (List String) := do
  let m := s.module
  let structs ← m.types.entries.mapM fun (i, t) =>
    match t.shape with
    | .struct members _ => structLines s i members
    | _ => pure []
  let constants ← (m.constants.entries.filter (·.2.name.isSome)).mapM fun (i, k) =>
    constantLine s i k
  let globals ← m.globals.entries.mapM fun (i, g) => globalLines s i g
  let (functions, identifiers) ← m.functions.entries.foldlM (fun (done, ids) (i, f) => do
    let c : Frame := ⟨s, f, s.names.functions[i]?.getD default, info.functions[i]?.getD default⟩
    let (lines, ids) ← functionLines c ids
    return (done ++ lines ++ [""], ids)) ([], identifiers)
  let (entryPoints, _) ← m.entryPoints.zipIdx.foldlM (fun (done, ids) (e, i) => do
    let c : Frame :=
      ⟨s, e.function, s.names.entryPoints[i]?.getD default, info.entryPoints[i]?.getD default⟩
    let (lines, ids) ← functionLines c ids
    let gap := if i + 1 < m.entryPoints.length then [""] else []
    return (done ++ stageLine e :: lines ++ gap, ids)) ([], identifiers)
  return structs.flatten ++ grouped constants ++ grouped globals.flatten ++ functions ++ entryPoints

end Writer

/-- The source text of a module. -/
def writeModule (explicitTypes : Bool) (m : Ir.Module) (info : Ir.ModuleInfo) :
    Except Writer.Fault String := do
  if m.overrides.size ≠ 0 then throw .overrides
  let (names, identifiers) := (Writer.Names.ofModule m).run {}
  let scope : Writer.Scope := ⟨m, names, Writer.typeTexts m names, explicitTypes⟩
  let lines ← Writer.moduleLines scope info identifiers
  return String.join (lines.map (· ++ "\n"))

end ShaderConvert.Wgsl
