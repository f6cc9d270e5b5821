import ShaderConvert.Number.Power
import ShaderConvert.Spirv.Emission.Expression

/-
Blocks and functions.

A block of statements may take several blocks of instructions, each of which ends with a jump.
`emitBlock` writes them and says whether the jump at their end was needed. An entry point is a
function without arguments: what comes in is loaded in front, what goes out is stored at its returns.
-/
namespace ShaderConvert.Spirv.Emission

open Ir

/-- Where `break` and `continue` go. -/
structure Targets where
  exit : Nat := 0
  next : Nat := 0

/-- How a block of statements ends. -/
inductive Ending where
  | functionEnd
  | jump (target : Nat)
  | breakIf (condition : ExprId) (start : Nat)

/-- Turns a coordinate upside down. -/
def flipPosition (var : Nat) : E Unit := do
  let pointer ← valueTypeId none .f32 (some StorageClass.output)
  let one ← indexId 1
  let access ← pushValue Code.accessChain pointer [var, one]
  let float ← valueTypeId none .f32 none
  let value ← pushValue Code.load float [access]
  let negated ← pushValue Code.fNegate float [value]
  push Code.store [access, negated]

/-- Stores what an entry point gives out. -/
def emitOutputs (value : Nat) (bound : Bool) (outputs : List OutputMember) : E Unit := do
  let flips := (← get).settings.adjustCoordinateSpace
  outputs.zipIdx.forM fun (o, i) => do
    let part ← if bound then pure value else pushValue Code.compositeExtract o.type [value, i]
    push Code.store [o.id, part]
    match o.builtIn with
    | some (.position _) => if flips then flipPosition o.id else return ()
    | _ => return ()

def emitReturn (value : Option ExprId) : E Unit := do
  match value with
  | none => endBlock Code.ret []
  | some e => do
    let v ← idOf e
    let f := (← get).current
    match f.outputs with
    | some outputs => do
      emitOutputs v (f.function.result.any (·.binding.isSome)) outputs
      endBlock Code.ret []
    | none => endBlock Code.returnValue [v]

def emitBarrier (storage workGroup : Bool) : E Unit := do
  let scope := if storage then 1 else 2
  let semantics := 8 + (if storage then 0x40 else 0) + (if workGroup then 0x100 else 0)
  let execution ← indexId 2
  let memory ← indexId scope
  let meaning ← indexId semantics
  push Code.controlBarrier [execution, memory, meaning]

def emitCall (function : Nat) (args : List ExprId) (result : Option ExprId) : E Unit := do
  let id ← freshId
  let ids ← args.mapM idOf
  let type ← match result with
    | some e => do
      setId e id
      resolvedTypeId (← resolvedOf e)
    | none => pure voidType
  let callee := (← get).functions[function]?.getD 0
  push Code.functionCall (type :: id :: callee :: ids)

/-- The jump at the end of a block. -/
def emitEnding (targets : Targets) : Ending → E Unit
  | .jump target => endBlock Code.branch [target]
  | .breakIf condition start => do
    endBlock Code.branchConditional [← idOf condition, targets.exit, start]
  | .functionEnd => do
    let f := (← get).current
    match f.function.result, f.outputs with
    | some r, none => do
      let null ← nullId (← typeId (.named r.type))
      endBlock Code.returnValue [null]
    | _, _ => endBlock Code.ret []

/-- The labels of cases: a case that falls through and does nothing shares the label of the next. -/
def caseLabels : Option Nat → List SwitchCase → E (List Nat)
  | _, [] => return []
  | shared, .mk _ b fall :: rest => do
    let label ← match shared with
      | some l => pure l
      | none => freshId
    let others ← caseLabels (if fall && b.isEmpty then some label else none) rest
    return label :: others

def caseOperands (cases : List (SwitchCase × Nat)) : List Nat :=
  cases.flatMap fun
    | (.mk (.i32 n) _ _, label) => [(n % twoTo 32).toNat, label]
    | (.mk (.u32 n) _ _, label) => [n, label]
    | (.mk .default _ _, _) => []

mutual

/-- Writes a statement; does the way go on behind it? -/
def emitStatement (targets : Targets) : Statement → E Bool
  | .emit first stop => do
    for e in List.range' first (stop - first) do
      if !(← isConstant e) then evaluate e
    return true
  | .block b => do
    let scope ← freshId
    endBlock Code.branch [scope]
    let merge ← freshId
    let used ← emitBlock targets scope (.jump merge) b
    if used then startBlock merge
    return used
  | .branch condition accept reject => do
    let c ← idOf condition
    let merge ← freshId
    push Code.selectionMerge [merge, 0]
    let a ← if accept.isEmpty then pure merge else freshId
    let r ← if reject.isEmpty then pure merge else freshId
    endBlock Code.branchConditional [c, a, r]
    if !accept.isEmpty then discard (emitBlock targets a (.jump merge) accept)
    if !reject.isEmpty then discard (emitBlock targets r (.jump merge) reject)
    startBlock merge
    return true
  | .switch selector cases => do
    let s ← idOf selector
    let merge ← freshId
    push Code.selectionMerge [merge, 0]
    let labels ← caseLabels none cases
    let otherwise := ((cases.zip labels).find? fun (.mk v _ _, _) => v = .default).map (·.2)
    endBlock Code.switch ([s, otherwise.getD merge] ++ caseOperands (cases.zip labels))
    emitCases { targets with exit := merge } merge labels cases
    startBlock merge
    return true
  | .loop body continuing breakIf => do
    let start ← freshId
    endBlock Code.branch [start]
    let merge ← freshId
    let first ← freshId
    let next ← freshId
    startBlock start
    push Code.loopMerge [merge, next, 0]
    endBlock Code.branch [first]
    discard (emitBlock ⟨merge, next⟩ first (.jump next) body)
    let ending : Ending := match breakIf with
      | some c => .breakIf c start
      | none => .jump start
    discard (emitBlock ⟨merge, 0⟩ next ending continuing)
    startBlock merge
    return true
  | .exit => do
    endBlock Code.branch [targets.exit]
    return false
  | .next => do
    endBlock Code.branch [targets.next]
    return false
  | .ret value => do
    emitReturn value
    return false
  | .kill => do
    endBlock Code.kill []
    return false
  | .barrier storage workGroup => do
    emitBarrier storage workGroup
    return true
  | .store pointer value => do
    emitStore pointer (← idOf value)
    return true
  | .call function args result => do
    emitCall function args result
    return true

def emitStatements (targets : Targets) : List (Statement × Span) → E Bool
  | [] => return true
  | (s, _) :: rest => do
    let goesOn ← emitStatement targets s
    if goesOn then emitStatements targets rest else return false

/-- Writes a block of statements under a label; was its ending reached? -/
def emitBlock (targets : Targets) (label : Nat) (ending : Ending) : Block → E Bool
  | .mk ss => do
    startBlock label
    let goesOn ← emitStatements targets ss
    if goesOn then emitEnding targets ending
    return goesOn

/-- Writes the cases that do something; a case that falls through goes on with the next. -/
def emitCases (targets : Targets) (merge : Nat) : List Nat → List SwitchCase → E Unit
  | label :: labels, .mk _ b fall :: rest => do
    if !(fall && b.isEmpty) then
      let target := if fall then labels.headD merge else merge
      discard (emitBlock targets label (.jump target) b)
    emitCases targets merge labels rest
  | _, _ => return ()

end

/-- The number of a built-in value, which may ask for a capability. -/
def builtInNumber (cls : Nat) : BuiltIn → E Nat
  | .position _ => return if cls = StorageClass.output then 0 else 15
  | .pointSize => return 1
  | .clipDistance => do
    requireCapability 32
    return 3
  | .cullDistance => do
    requireCapability 33
    return 4
  | .primitiveIndex => do
    requireCapability 2
    return 7
  | .pointCoord => return 16
  | .frontFacing => return 17
  | .sampleIndex => do
    requireCapability 35
    return 18
  | .sampleMask => return 20
  | .fragDepth => return 22
  | .numWorkGroups => return 24
  | .workGroupSize => return 25
  | .workGroupId => return 26
  | .localInvocationId => return 27
  | .globalInvocationId => return 28
  | .localInvocationIndex => return 29
  | .subgroupSize => do
    requireCapability 61
    return 36
  | .numSubgroups => do
    requireCapability 61
    return 38
  | .subgroupId => do
    requireCapability 61
    return 40
  | .subgroupInvocationId => do
    requireCapability 61
    return 41
  | .vertexIndex => return 42
  | .instanceIndex => return 43
  | .baseVertex => return 4424
  | .baseInstance => return 4425
  | .viewIndex => do
    requireCapability 4439
    return 4440

def decorateLocation (id : Nat) (decorates : Bool) (n : Nat) (second : Bool)
    (interpolation : Option Interpolation) (sampling : Option Sampling) : E Unit := do
  decorate id Decoration.location [n]
  if decorates then
    match interpolation with
    | some .flat => decorate id Decoration.flat []
    | some .linear => decorate id Decoration.noPerspective []
    | _ => pure ()
    match sampling with
    | some .centroid => decorate id Decoration.centroid []
    | some .sample => do
      requireCapability 35
      decorate id Decoration.sample []
    | _ => pure ()
  if second then decorate id Decoration.index [1]

/-- A variable through which a value comes in or goes out. -/
def emitVarying (stage : ShaderStage) (cls : Nat) (t : TypeId) (binding : Binding) : E Nat := do
  let id ← freshId
  let pointer ← pointerId t cls
  declare Code.variable_ [pointer, id, cls]
  let isInput := cls == StorageClass.input
  match binding with
  | .location n second interpolation sampling =>
    let plain := (isInput && stage == .vertex) || (!isInput && stage == .fragment)
    decorateLocation id (!plain) n second interpolation sampling
  | .builtIn b => do
    match b with
    | .position true => decorate id Decoration.invariant []
    | _ => pure ()
    let number ← builtInNumber cls b
    decorate id Decoration.builtIn [number]
    let isWhole := match (← get).module.shapeOf t with
      | .scalar s | .vector _ s => s.kind != .float
      | _ => false
    if isInput && stage == .fragment && isWhole then decorate id Decoration.flat []
  return id

/-- What has been written of the signature of a function. -/
structure Signature where
  parameterTypes : List Nat := []
  /-- The variables of the interface. -/
  varyings : List Nat := []
  invocation : Option Nat := none

def isResource (m : Module) (t : TypeId) : Bool :=
  match m.shapeOf t with
  | .image _ _ _ | .sampler _ => true
  | _ => false

def addArgument (id handle : Nat) : E Unit :=
  modifyCurrent fun f => { f with arguments := f.arguments.push (id, handle) }

/-- Loads an input. -/
def emitInput (stage : ShaderStage) (s : Signature) (type : Nat) (t : TypeId) (binding : Binding) :
    E (Nat × Signature) := do
  let var ← emitVarying stage StorageClass.input t binding
  let id ← pushValue Code.load type [var]
  return (id, { s with
    varyings := s.varyings ++ [var]
    invocation := if binding = .builtIn .localInvocationId then some id else s.invocation })

/-- An argument of an entry point: one input, or an input for every member. -/
def emitEntryArgument (stage : ShaderStage) (s : Signature) (a : FunctionArgument) :
    E Signature := do
  let m := (← get).module
  let type ← typeId (.named a.type)
  match a.binding, m.shapeOf a.type with
  | some b, _ => do
    let (id, s) ← emitInput stage s type a.type b
    addArgument id 0
    return s
  | none, .struct members _ => do
    let whole ← freshId
    let (ids, s) ← members.foldlM (fun ((ids, s) : List Nat × Signature) member => do
      let memberType ← typeId (.named member.type)
      match member.binding with
      | some b => do
        let (id, s) ← emitInput stage s memberType member.type b
        return (ids ++ [id], s)
      | none => fail (.notValidated "argument binding")) ([], s)
    push Code.compositeConstruct (type :: whole :: ids)
    addArgument whole 0
    return s
  | none, _ => fail (.notValidated "argument binding")

/-- An argument of any other function; a resource is passed by a pointer and loaded. -/
def emitArgument (s : Signature) (a : FunctionArgument) : E Signature := do
  let m := (← get).module
  let resource := isResource m a.type
  let type ←
    if resource then pointerId a.type StorageClass.uniformConstant else typeId (.named a.type)
  let id ← freshId
  nameId id a.name
  modifyCurrent fun f =>
    { f with signature := f.signature ++ (instruction Code.functionParameter [type, id]).toArray }
  let handle ←
    if resource then do pushValue Code.load (← typeId (.named a.type)) [id] else pure 0
  addArgument id handle
  return { s with parameterTypes := s.parameterTypes ++ [type] }

/-- The outputs of an entry point. -/
def emitResult (stage : ShaderStage) (s : Signature) (r : FunctionResult) :
    E (List OutputMember × Signature) := do
  let m := (← get).module
  let parts : List (TypeId × Option Binding) := match r.binding, m.shapeOf r.type with
    | none, .struct members _ => members.map fun member => (member.type, member.binding)
    | b, _ => [(r.type, b)]
  parts.foldlM (fun ((outputs, s) : List OutputMember × Signature) (t, binding) => do
    let type ← typeId (.named t)
    match binding with
    | some b => do
      let id ← emitVarying stage StorageClass.output t b
      let builtIn := match b with
        | .builtIn v => some v
        | _ => none
      return (outputs ++ [⟨id, type, builtIn⟩], { s with varyings := s.varyings ++ [id] })
    | none => fail (.notValidated "result binding")) ([], s)

/-- Makes the global variables that a function uses ready in front of its body. -/
def emitGlobalAccess (info : FunctionInfo) (s : Signature) : E Signature := do
  let m := (← get).module
  m.globals.entries.foldlM (fun (s : Signature) (i, g) => do
    if (info.useOf i).isEmpty then return s
    else do
      let ids := (← get).globals[i]?.getD default
      let isNew := (← get).settings.minor ≥ 4
      let s := if isNew then { s with varyings := s.varyings ++ [ids.var] } else s
      let ids ←
        if g.space = .handle then do
          let id ← pushValue Code.load (← typeId (.named g.type)) [ids.var]
          pure { ids with access := ids.var, handle := id }
        else if needsWrapper m g then do
          let pointer ← pointerId g.type (storageClassOf g.space)
          let first ← indexId 0
          let id ← pushValue Code.accessChain pointer [ids.var, first]
          pure { ids with access := id }
        else pure { ids with access := ids.var }
      modify fun d => { d with globals := d.globals.modify i fun _ => ids }
      return s) s

def emitLocals : E Unit := do
  let f := (← get).current.function
  f.locals.toList.forM fun v => do
    let id ← freshId
    nameId id v.name
    let pointer ← pointerId v.type StorageClass.function
    let init ← match v.init with
      | some e => idOf e
      | none => do declareNull (← typeId (.named v.type))
    modifyCurrent fun c => { c with
      locals := c.locals.push id
      declarations := c.declarations
        ++ (instruction Code.variable_ [pointer, id, StorageClass.function, init]).toArray }

/-- Sets the variables of a work group to zero before anything else; one invocation does it for
all. -/
def emitWorkgroupInit (info : FunctionInfo) (s : Signature) (label : Nat) :
    E (Nat × Signature) := do
  let d ← get
  let vars := d.module.globals.entries.filter fun (i, g) =>
    !(info.useOf i).isEmpty && g.space = .workGroup
  if vars.isEmpty then return (label, s)
  else do
    let stores ← vars.mapM fun (i, g) => do
      let null ← nullId (← typeId (.named g.type))
      return ((d.globals[i]?.getD default).var, null)
    let vector ← valueTypeId (some .three) .u32 none
    startBlock label
    let (invocation, s) ← match s.invocation with
      | some id => pure (id, s)
      | none => do
        let var ← freshId
        let pointer ← valueTypeId (some .three) .u32 (some StorageClass.input)
        declare Code.variable_ [pointer, var, StorageClass.input]
        decorate var Decoration.builtIn [27]
        let id ← pushValue Code.load vector [var]
        pure (id, { s with varyings := s.varyings ++ [var] })
    let origin ← nullId vector
    let truths ← valueTypeId (some .three) .bool none
    let same ← pushValue Code.iEqual truths [invocation, origin]
    let condition ← freshId
    push Code.all [← boolTypeId, condition, same]
    let merge ← freshId
    push Code.selectionMerge [merge, 0]
    let accept ← freshId
    endBlock Code.branchConditional [condition, accept, merge]
    startBlock accept
    stores.forM fun (var, null) => push Code.store [var, null]
    endBlock Code.branch [merge]
    startBlock merge
    emitBarrier false true
    let next ← freshId
    endBlock Code.branch [next]
    return (next, s)

/-- Writes a function; gives its id and, for an entry point, the variables of its interface. -/
def emitFunction (f : Function) (info : FunctionInfo) (stage : Option ShaderStage) :
    E (Nat × List Nat) := do
  let label ← freshId
  modify fun d => { d with current :=
    { function := f, info
      ids := Array.replicate f.expressions.size 0
      constness := constnessOf f.expressions } }
  startBlock label
  let s ← f.arguments.foldlM (fun s a =>
    match stage with
    | some st => emitEntryArgument st s a
    | none => emitArgument s a) {}
  let (resultType, outputs, s) ← match stage, f.result with
    | some st, some r => do
      let (outputs, s) ← emitResult st s r
      pure (voidType, some outputs, s)
    | some _, none => pure (voidType, some [], s)
    | none, some r => do pure (← typeId (.named r.type), none, s)
    | none, none => pure (voidType, none, s)
  modifyCurrent fun c => { c with outputs := outputs }
  let id ← freshId
  nameId id f.name
  let type ← functionTypeId resultType s.parameterTypes
  modifyCurrent fun c => { c with
    signature := (instruction Code.function [resultType, id, 0, type]).toArray ++ c.signature }
  let s ← emitGlobalAccess info s
  for (e, x) in f.expressions.entries do
    let isLocal := match x with
      | .localVariable _ => true
      | _ => false
    if (x.needsNoEmit && !isLocal) || (← isConstant e) then evaluate e
  emitLocals
  for (e, x) in f.expressions.entries do
    match x with
    | .localVariable _ => evaluate e
    | _ => pure ()
  let body ← freshId
  endBlock Code.branch [body]
  let (body, s) ← match stage with
    | some .compute => emitWorkgroupInit info s body
    | _ => pure (body, s)
  discard (emitBlock {} body .functionEnd f.body)
  modify fun d => { d with
    definitions := d.definitions ++ d.current.signature ++ d.current.blocks
      ++ (instruction Code.functionEnd []).toArray }
  return (id, s.varyings)

end ShaderConvert.Spirv.Emission
