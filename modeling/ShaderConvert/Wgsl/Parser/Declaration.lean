import ShaderConvert.Wgsl.Parser.Statement

/-
Declarations, and the whole of a source text (`parse`).
-/
namespace ShaderConvert.Wgsl.Parser

open Ast
open Ir (BuiltIn Interpolation Sampling)

/-- Sets an attribute that may be given once. -/
def setOnce {α : Type} (current : Option α) (value : α) (place : Span) : P (Option α) :=
  match current with
  | some _ => throw (.repeatedAttribute place)
  | none => return some value

/-- An expression in brackets. -/
def bracketed : P Expr := do
  expect (.bracket '(')
  let e ← expression
  expect (.bracket ')')
  return e

/-- The attributes that tie an argument, a result or a member to what lies outside. -/
structure BindingAttributes where
  location : Option Expr := none
  builtIn : Option BuiltIn := none
  interpolation : Option Interpolation := none
  sampling : Option Sampling := none
  invariant : Option Bool := none
  secondBlendSource : Option Bool := none

namespace BindingAttributes

def add (b : BindingAttributes) (i : Ident) : P BindingAttributes := do
  match i.name with
  | "location" => do
    expect (.bracket '(')
    let e ← expression
    let location ← setOnce b.location e i.place
    expect (.bracket ')')
    return { b with location }
  | "builtin" => do
    expect (.bracket '(')
    let w ← nextWord
    match BuiltIn.ofSourceName? w.name with
    | none => throw (.unknownBuiltIn w.place)
    | some v => do
      let builtIn ← setOnce b.builtIn v i.place
      expect (.bracket ')')
      return { b with builtIn }
  | "interpolate" => do
    expect (.bracket '(')
    let w ← nextWord
    match Interpolation.ofSourceName? w.name with
    | none => throw (.unknownAttribute w.place)
    | some v => do
      let interpolation ← setOnce b.interpolation v i.place
      let sampling ←
        if (← skip (.separator ',')) then do
          let w ← nextWord
          match Sampling.ofSourceName? w.name with
          | none => throw (.unknownAttribute w.place)
          | some s => setOnce b.sampling s i.place
        else pure b.sampling
      expect (.bracket ')')
      return { b with interpolation, sampling }
  | "second_blend_source" => do
    return { b with secondBlendSource := ← setOnce b.secondBlendSource true i.place }
  | "invariant" => do return { b with invariant := ← setOnce b.invariant true i.place }
  | _ => throw (.unknownAttribute i.place)

/-- A location or a built-in value, but not parts of both. -/
def finish (b : BindingAttributes) (place : Span) : P (Option Binding) :=
  let invariant := b.invariant.getD false
  match b.location, b.builtIn, b.interpolation, b.sampling, invariant with
  | none, none, none, none, false => return none
  | some e, none, i, s, false => return some (.location e (b.secondBlendSource.getD false) i s)
  | none, some (.position _), none, none, inv => return some (.builtIn (.position inv))
  | none, some v, none, none, false => return some (.builtIn v)
  | _, _, _, _, _ => throw (.inconsistentBinding place)

end BindingAttributes

/-- Attributes in front of an argument or a result. -/
def varyingBinding : P (Option Binding) := do
  let start ← startOffset
  let b ← repeatWhile ({} : BindingAttributes) fun b => do
    if (← skip .atSign) then return (← b.add (← nextWord), true) else return (b, false)
  b.finish (← placeFrom start)

/-- A member of a struct with its attributes. -/
def member : P Member := do
  let start ← startOffset
  let (b, size, align) ←
    repeatWhile (({}, none, none) : BindingAttributes × Option Expr × Option Expr)
      fun (b, size, align) => do
        if (← skip .atSign) then
          let w ← nextWord
          match w.name with
          | "size" => do
            let e ← bracketed
            return ((b, ← setOnce size e w.place, align), true)
          | "align" => do
            let e ← bracketed
            return ((b, size, ← setOnce align e w.place), true)
          | _ => return ((← b.add w, size, align), true)
        else return ((b, size, align), false)
  let binding ← b.finish (← placeFrom start)
  let name ← nextIdent
  expect (.separator ':')
  let t ← type
  return ⟨name, t, binding, size, align⟩

/-- Items up to a closing token, with commas between them; the last may have one, too. -/
def separated {α : Type} (close : Token) (item : P α) : P (List α) := do
  let (items, _) ← repeatWhile ((#[], true) : Array α × Bool) fun (items, ready) => do
    if (← skip close) then return ((items, ready), false)
    else if !ready then
      let (_, p) ← next
      unexpected p (.token (.separator ','))
    else
      let x ← item
      let ready ← skip (.separator ',')
      return ((items.push x, ready), true)
  return items.toList

def structDecl : P Decl := do
  let name ← nextIdent
  expect (.bracket '\x7b')
  return .struct name (← separated (.bracket '\x7d') member)

def aliasDecl : P Decl := do
  let name ← nextIdent
  expect (.operation '=')
  let t ← type
  semicolon
  return .typeAlias name t

def constDecl : P Decl := do
  let name ← nextIdent
  let t ← typeAnnotation
  expect (.operation '=')
  let init ← expression
  semicolon
  return .const name t init

def overrideDecl (id : Option Expr) : P Decl := do
  let name ← nextIdent
  let t ← typeAnnotation
  let init ← if (← skip (.operation '=')) then some <$> expression else pure none
  semicolon
  return .override name id t init

/-- The space of a variable in angle brackets. -/
def variableSpace : P (Option AddressSpace) := do
  if (← skip (.bracket '<')) then
    let i ← nextWord
    let space ←
      if i.name = "storage" then do
        let access ← if (← skip (.separator ',')) then storageAccess else pure { load := true }
        pure (.storage access)
      else addressSpaceOf i
    expect (.bracket '>')
    return some space
  else return none

def varDecl (binding : Option (Expr × Expr)) : P Decl := do
  let space ← variableSpace
  let name ← nextIdent
  expect (.separator ':')
  let t ← type
  let init ← if (← skip (.operation '=')) then some <$> expression else pure none
  semicolon
  return .var ⟨name, space, binding, t, init⟩

def argument : P Argument := do
  let binding ← varyingBinding
  let name ← nextIdent
  expect (.separator ':')
  let t ← type
  let slot ← declareLocal name
  return ⟨name, t, binding, slot⟩

/-- A function after its keyword, without what its attributes say. -/
def functionDecl : P Function := do
  let name ← nextIdent
  pushScope
  expect (.bracket '(')
  let arguments ← separated (.bracket ')') argument
  let result ←
    if (← skip .arrow) then
      if (← skip (.word "void")) then pure none
      else do
        let binding ← varyingBinding
        let t ← type
        pure (some (t, binding))
    else pure none
  let body ← functionBody
  popScope
  return ⟨none, name, arguments, result, body⟩

/-- The attributes of a declaration. -/
structure Attributes where
  binding : Option Expr := none
  group : Option Expr := none
  id : Option Expr := none
  stage : Option ShaderStage := none
  computePlace : Span := .undefined
  workgroupSize : Option (List Expr) := none
  earlyDepthTest : Option Bool := none

/-- One to three sizes in brackets. -/
def workgroupSizes : P (List Expr) := do
  expect (.bracket '(')
  let sizes ← repeatWhile (#[] : Array Expr) fun sizes => do
    let sizes := sizes.push (← expression)
    match ← next with
    | (.bracket ')', _) => return (sizes, false)
    | (.separator ',', p) =>
      if sizes.size < 3 then return (sizes, true) else unexpected p .workgroupSizeSeparator
    | (_, p) => unexpected p .workgroupSizeSeparator
  return sizes.toList

def earlyDepth : P Bool := do
  if (← skip (.bracket '(')) then
    let w ← nextWord
    if ["greater_equal", "less_equal", "unchanged"].contains w.name then
      expect (.bracket ')')
      return true
    else throw (.unknownConservativeDepth w.place)
  else return true

def Attributes.add (a : Attributes) : P Attributes := do
  let w ← nextWord
  let stage (s : ShaderStage) : P Attributes := do
    return { a with stage := ← setOnce a.stage s w.place }
  match w.name with
  | "binding" => do
    expect (.bracket '(')
    let e ← expression
    let binding ← setOnce a.binding e w.place
    expect (.bracket ')')
    return { a with binding }
  | "group" => do
    expect (.bracket '(')
    let e ← expression
    let group ← setOnce a.group e w.place
    expect (.bracket ')')
    return { a with group }
  | "id" => do
    expect (.bracket '(')
    let e ← expression
    let id ← setOnce a.id e w.place
    expect (.bracket ')')
    return { a with id }
  | "vertex" => stage .vertex
  | "fragment" => stage .fragment
  | "compute" => do return { ← stage .compute with computePlace := w.place }
  | "workgroup_size" => do
    let sizes ← workgroupSizes
    return { a with workgroupSize := ← setOnce a.workgroupSize sizes w.place }
  | "early_depth_test" => do
    let b ← earlyDepth
    return { a with earlyDepthTest := ← setOnce a.earlyDepthTest b w.place }
  | _ => throw (.unknownAttribute w.place)

/-- Group and binding go together. -/
def Attributes.resource (a : Attributes) (place : Span) : P (Option (Expr × Expr)) :=
  match a.group, a.binding with
  | some g, some b => return some (g, b)
  | some _, none => throw (.missingAttribute "binding" place)
  | none, some _ => throw (.missingAttribute "group" place)
  | none, none => return none

/-- A function that belongs to a stage is an entry point. -/
def Attributes.entryPoint (a : Attributes) : P (Option EntryPoint) :=
  match a.stage with
  | none => return none
  | some stage =>
    if stage = .compute ∧ a.workgroupSize.isNone then throw (.missingWorkgroupSize a.computePlace)
    else return some ⟨stage, a.earlyDepthTest.isSome, a.workgroupSize⟩

/-- A declaration, unless there is only a semicolon or nothing. -/
def declaration : P (Option GlobalDecl) := do
  modify fun s => { s with scopes := [], uses := #[] }
  let attributesStart ← startOffset
  let a ← repeatWhile ({} : Attributes) fun a => do
    if (← skip .atSign) then return (← a.add, true) else return (a, false)
  let resource ← a.resource (← placeFrom attributesStart)
  let start ← startOffset
  let some decl ← (do
    match ← next with
    | (.separator ';', _) => return none
    | (.word "struct", _) => some <$> structDecl
    | (.word "alias", _) => some <$> aliasDecl
    | (.word "const", _) => some <$> constDecl
    | (.word "override", _) => some <$> overrideDecl a.id
    | (.word "var", _) => some <$> varDecl resource
    | (.word "fn", _) => do
      let f ← functionDecl
      return some (.fn { f with entryPoint := ← a.entryPoint })
    | (.finish, _) => return none
    | (_, p) => unexpected p .globalItem : P (Option Decl)) | return none
  return some ⟨decl, (← get).uses.toList, ← placeFrom start⟩

/-- All declarations of a text. -/
def declarations : P (List GlobalDecl) := do
  let ds ← repeatWhile (#[] : Array GlobalDecl) fun ds => do
    let d ← declaration
    let ds := match d with
      | some d => ds.push d
      | none => ds
    return (ds, !(← peek).1.isSame .finish)
  return ds.toList

/-- The declarations of a source text. -/
def parse (source : String) : Except Fault (List GlobalDecl) :=
  (declarations.run { rest := source.toList }).map (·.1)

end ShaderConvert.Wgsl.Parser
