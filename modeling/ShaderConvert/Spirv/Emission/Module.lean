import ShaderConvert.Spirv.Emission.Function

/-
Whole modules as words.
-/
namespace ShaderConvert.Spirv.Emission

open Ir

/-- The matrix at the bottom of arrays of matrices. -/
def innerMatrix? (types : Arena ShaderType) : Nat → Shape → Option (VectorSize × Scalar)
  | _, .matrix _ rows s => some (rows, s)
  | depth + 1, .array base _ _ => innerMatrix? types depth (types.get base).shape
  | _, _ => none

/-- The decorations of a member: its offset, and how a matrix lies in it. -/
def decorateMember (struct index : Nat) (m : StructMember) : E Unit := do
  let types := (← get).module.types
  annotate Code.memberDecorate [struct, index, Decoration.offset, m.offset]
  addName Code.memberName [struct, index] m.name
  match innerMatrix? types (types.size + 1) (types.get m.type).shape with
  | some (rows, s) => do
    annotate Code.memberDecorate [struct, index, Decoration.colMajor]
    annotate Code.memberDecorate
      [struct, index, Decoration.matrixStride, rows.alignment * s.width]
  | none => pure ()

def isDynamicArray : Shape → Bool
  | .array _ .dynamic _ => true
  | _ => false

/-- Asks for what a type needs. -/
def requireForShape : Shape → E Unit
  | .image .d1 _ _ => requireCapability 43
  | .image .cube true _ => requireCapability 45
  | _ => return ()

/-- Declares a type of the module. -/
def emitType (index : TypeId) (t : ShaderType) : E Unit := do
  let id ← match keyOfShape? t.shape with
    | some k => do
      let known ← lookupType k
      let id ← typeId k
      if known.isNone then requireForShape t.shape
      pure id
    | none => do
      let id ← freshId
      match t.shape with
      | .array base size stride => do
        decorate id Decoration.arrayStride [stride]
        let element ← typeId (.named base)
        match size with
        | .constant n => do
          let length ← indexId n
          declare Code.typeArray [id, element, length]
        | .dynamic => declare Code.typeRuntimeArray [id, element]
      | .struct members _ => do
        let types := (← get).module.types
        let ids ← members.zipIdx.mapM fun (m, i) => do
          decorateMember id i m
          typeId (.named m.type)
        if members.any fun m => isDynamicArray (types.get m.type).shape then
          decorate id Decoration.block []
        declare Code.typeStruct (id :: ids)
      | _ => fail (.notValidated "type")
      pure id
  rememberType (.named index) id
  nameId id t.name

/-- Declares an expression outside of functions. -/
def emitConstant (index : ExprId) (e : Expression) : E Unit := do
  let d ← get
  let idOfGlobal (i : ExprId) : Nat := d.constantIds[i]?.getD 0
  let id ← match e with
    | .literal l => literalId l
    | .constant c => pure (idOfGlobal (d.module.constants.get c).init)
    | .zeroValue t => do nullId (← typeId (.named t))
    | .compose t parts =>
      let flat := flattenComponents d.module.types d.module.globalExpressions t parts
      compositeId (.named t) (flat.map idOfGlobal)
    | .splat n value =>
      compositeId (keyOf (d.info.globalTypes[index]?.getD default)) (repeated n (idOfGlobal value))
    | _ => fail (.notValidated "constant expression")
  modify fun d => { d with constantIds := d.constantIds.push id }

def emitGlobal (g : GlobalVariable) : E Unit := do
  let d ← get
  let id ← freshId
  let cls := storageClassOf g.space
  nameId id g.name
  match g.space with
  | .storage access => do
    if !access.load then decorate id Decoration.nonReadable []
    if !access.store then decorate id Decoration.nonWritable []
  | _ => pure ()
  match g.binding with
  | some b => do
    decorate id Decoration.descriptorSet [b.group]
    decorate id Decoration.binding [b.binding]
  | none => pure ()
  let inner ← typeId (.named g.type)
  let pointer ←
    if needsWrapper d.module g then do
      let wrapper ← freshId
      decorate wrapper Decoration.block []
      decorateMember wrapper 0 ⟨none, g.type, none, 0⟩
      declare Code.typeStruct [wrapper, inner]
      let pointer ← freshId
      declare Code.typePointer [pointer, cls, wrapper]
      pure pointer
    else pointerId g.type cls
  let init := g.init.map fun e => d.constantIds[e]?.getD 0
  let init ← match init, g.space with
    | none, .privateSpace => do pure (some (← declareNull inner))
    | _, _ => pure init
  declare Code.variable_ ([pointer, id, cls] ++ init.toList)
  modify fun d => { d with globals := d.globals.push { var := id } }

/-- Does an entry point give out a built-in value? -/
def givesOut (m : Module) (f : Function) (b : BuiltIn) : Bool :=
  f.result.any fun r =>
    match r.binding, m.shapeOf r.type with
    | some x, _ => x == .builtIn b
    | none, .struct members _ => members.any fun k => k.binding == some (.builtIn b)
    | none, _ => false

def addExecutionMode (operands : List Nat) : E Unit :=
  modify fun d => { d with
    executionModes := d.executionModes ++ (instruction Code.executionMode operands).toArray }

def emitEntryPoint (e : EntryPoint) (info : FunctionInfo) : E Unit := do
  let (id, varyings) ← emitFunction e.function info (some e.stage)
  let model ← match e.stage with
    | .vertex => pure 0
    | .fragment => do
      addExecutionMode [id, 7]
      if givesOut (← get).module e.function .fragDepth then addExecutionMode [id, 12]
      pure 4
    | .compute => do
      let (x, y, z) := e.workgroupSize
      addExecutionMode [id, 17, x, y, z]
      pure 5
  modify fun d => { d with
    entryPoints := d.entryPoints
      ++ (instruction Code.entryPoint ([model, id] ++ textOperands e.name ++ varyings)).toArray }

/-- Is a value for every view asked for? -/
def usesViewIndex (m : Module) : Bool :=
  let isView (b : Option Binding) : Bool := b == some (.builtIn .viewIndex)
  let inType (t : TypeId) (b : Option Binding) : Bool :=
    isView b || match m.shapeOf t with
      | .struct members _ => members.any fun k => isView k.binding
      | _ => false
  m.entryPoints.any fun e =>
    e.function.arguments.any (fun a => inType a.type a.binding)
      || e.function.result.any fun r => inType r.type r.binding

/-- Everything of a module, in the order in which ids are given out. -/
def emitModule : E Unit := do
  let d ← get
  declare Code.typeVoid [voidType]
  d.module.types.entries.forM fun (i, t) => emitType i t
  d.module.globalExpressions.entries.forM fun (i, e) => emitConstant i e
  d.module.constants.toList.forM fun c => do
    nameId ((← get).constantIds[c.init]?.getD 0) c.name
  d.module.globals.toList.forM emitGlobal
  d.module.functions.entries.forM fun (i, f) => do
    let (id, _) ← emitFunction f (d.info.functions[i]?.getD default) none
    modify fun d => { d with functions := d.functions.push id }
  d.module.entryPoints.zipIdx.forM fun (e, i) =>
    emitEntryPoint e (d.info.entryPoints[i]?.getD default)

/-- The extensions that a module needs at a version. -/
def extensionsOf (m : Module) (minor : Nat) : List String :=
  let hasStorage := m.globals.toList.any fun g =>
    match g.space with
    | .storage _ => true
    | _ => false
  (if hasStorage && minor < 3 then ["SPV_KHR_storage_buffer_storage_class"] else [])
    ++ (if usesViewIndex m then ["SPV_KHR_multiview"] else [])

/-- The sections of a module in their order. -/
def assemble (d : Draft) : List Word :=
  let version := d.settings.major.toNat * 65536 + d.settings.minor.toNat * 256
  let linkage := if d.module.entryPoints.isEmpty then [5] else []
  let header : List Word := [Words.magic, version.toUInt32, 28, d.nextId.toUInt32, 0]
  header
    ++ (d.capabilities ++ linkage).flatMap (fun c => instruction Code.capability [c])
    ++ (extensionsOf d.module d.settings.minor.toNat).flatMap
      (fun n => instruction Code.extension (textOperands n))
    ++ instruction Code.extInstImport (arithmeticSet :: textOperands "GLSL.std.450")
    ++ instruction Code.memoryModel [0, 1]
    ++ (d.entryPoints ++ d.executionModes ++ d.names ++ d.annotations ++ d.declarations
      ++ d.definitions).toList

end ShaderConvert.Spirv.Emission

namespace ShaderConvert.Spirv

open Emission in
/-- A valid module as words. -/
def emitBinary (settings : WriteSettings) (m : Ir.Module) (info : Ir.ModuleInfo) :
    Except Emission.Fault (List Word) := do
  if settings.major ≠ 1 then .error (.version settings.major.toNat settings.minor.toNat)
  else if m.overrides.size > 0 then .error .overrides
  else
    let ((), d) ← emitModule.run { settings, module := m, info }
    return assemble d

end ShaderConvert.Spirv
