import ShaderConvert.Ir.Usage
import ShaderConvert.Number.Power
import ShaderConvert.Spirv.Code
import ShaderConvert.Toolchain

/-
A binary module that is being written.

A module is a row of sections, and ids are given out in the order in which things are met. A type or
a constant is declared where it is first asked for (`typeId`, `literalId`, `compositeId`, `nullId`)
and found again by its key.
-/
namespace ShaderConvert.Spirv.Emission

open Ir

/-- What has no place in a binary module. -/
inductive Fault where
  | version (major minor : Nat)
  | overrides
  | unimplemented (what : String)
  | notValidated (what : String)
deriving Repr, DecidableEq, Inhabited

def Fault.message : Fault → String
  | version major minor => s!"target SPIRV-{major}.{minor} is not supported"
  | overrides => "overrides should not be present at this stage"
  | unimplemented what => "unimplemented " ++ what
  | notValidated what => "module is not validated properly: " ++ what

/-- By what a type is found again. A pointer keeps the class of what it points into. -/
inductive TypeKey where
  | named (type : TypeId)
  | value (size : Option VectorSize) (scalar : Scalar) (pointerClass : Option Nat)
  | matrix (columns rows : VectorSize) (scalar : Scalar)
  | pointer (base : TypeId) (storageClass : Nat)
  | image (dimension : ImageDimension) (arrayed : Bool) (cls : ImageClass)
  | sampler
  | sampledImage (image : Nat)
deriving Repr, DecidableEq, Inhabited

/-- By what a constant is found again. -/
inductive ConstantKey where
  | literal (value : Literal)
  | composite (type : TypeKey) (parts : List Nat)
  | null (type : Nat)
deriving Repr, DecidableEq, Inhabited

/-- The ids of a global variable: its own, that of a pointer to its value, and of the resource. -/
structure GlobalIds where
  var : Nat
  access : Nat := 0
  handle : Nat := 0
deriving Repr, Inhabited

/-- An output of an entry point. -/
structure OutputMember where
  id : Nat
  type : Nat
  builtIn : Option BuiltIn
deriving Repr, Inhabited

/-- A function that is being written. -/
structure FunctionDraft where
  function : Function := {}
  info : FunctionInfo := {}
  /-- Is it the function of an entry point, and what does that give out? -/
  outputs : Option (List OutputMember) := none
  /-- The ids of arguments, and of the resources that arguments are. -/
  arguments : Array (Nat × Nat) := #[]
  locals : Array Nat := #[]
  /-- The ids of expressions; zero for those that have none. -/
  ids : Array Nat := #[]
  constness : Array Bool := #[]
  signature : Array Word := #[]
  declarations : Array Word := #[]
  /-- The blocks that are finished. The first one has the declarations in front. -/
  blocks : Array Word := #[]
  blockCount : Nat := 0
  label : Nat := 0
  body : Array Word := #[]
deriving Inhabited

structure Draft where
  settings : WriteSettings
  module : Module
  info : ModuleInfo
  nextId : Nat := 3
  capabilities : List Nat := [1]
  entryPoints : Array Word := #[]
  executionModes : Array Word := #[]
  names : Array Word := #[]
  annotations : Array Word := #[]
  declarations : Array Word := #[]
  definitions : Array Word := #[]
  types : List (TypeKey × Nat) := []
  constants : List (ConstantKey × Nat) := []
  functionTypes : List ((Nat × List Nat) × Nat) := []
  /-- The ids of the expressions outside of functions. -/
  constantIds : Array Nat := #[]
  globals : Array GlobalIds := #[]
  functions : Array Nat := #[]
  current : FunctionDraft := {}
deriving Inhabited

abbrev E := StateT Draft (Except Fault)

/-- The id of the imported set of arithmetic. -/
def arithmeticSet : Nat := 1

/-- The id of the type without values. -/
def voidType : Nat := 2

def fail {α : Type} (f : Fault) : E α := throw f

def freshId : E Nat := modifyGet fun d => (d.nextId, { d with nextId := d.nextId + 1 })

def declare (code : Nat) (operands : List Nat) : E Unit :=
  modify fun d => { d with declarations := d.declarations ++ (instruction code operands).toArray }

def annotate (code : Nat) (operands : List Nat) : E Unit :=
  modify fun d => { d with annotations := d.annotations ++ (instruction code operands).toArray }

def decorate (id decoration : Nat) (operands : List Nat) : E Unit :=
  annotate Code.decorate (id :: decoration :: operands)

/-- Names are written for debugging only. -/
def addName (code : Nat) (operands : List Nat) (name : Option String) : E Unit :=
  modify fun d =>
    match name with
    | some n =>
      if d.settings.debugInfo then
        { d with names := d.names ++ (instruction code (operands ++ textOperands n)).toArray }
      else d
    | none => d

def nameId (id : Nat) (name : Option String) : E Unit := addName Code.name [id] name

def requireCapability (c : Nat) : E Unit :=
  modify fun d =>
    if d.capabilities.contains c then d else { d with capabilities := d.capabilities ++ [c] }

def storageClassOf : AddressSpace → Nat
  | .handle => StorageClass.uniformConstant
  | .function => StorageClass.function
  | .privateSpace => StorageClass.private_
  | .storage _ => StorageClass.storageBuffer
  | .uniform => StorageClass.uniform
  | .workGroup => StorageClass.workgroup
  | .pushConstant => StorageClass.pushConstant

/-- The key of a shape that is no array and no struct. -/
def keyOfShape? : Shape → Option TypeKey
  | .scalar s => some (.value none s none)
  | .vector n s => some (.value (some n) s none)
  | .matrix c r s => some (.matrix c r s)
  | .pointer base space => some (.pointer base (storageClassOf space))
  | .valuePointer n s space => some (.value n s (some (storageClassOf space)))
  | .image dim arrayed cls => some (.image dim arrayed cls)
  | .sampler _ => some .sampler
  | .array _ _ _ | .struct _ _ => none

def keyOf (r : Resolved) : TypeKey :=
  match r with
  | .named t => .named t
  | .shape s => (keyOfShape? s).getD (.named 0)

def declareScalar (id : Nat) (s : Scalar) : E Unit :=
  let bits := 8 * s.width
  match s.kind with
  | .bool => declare Code.typeBool [id]
  | .float => do
    if bits = 64 then requireCapability 10
    declare Code.typeFloat [id, bits]
  | kind => do
    if bits = 64 then requireCapability 11
    declare Code.typeInt [id, bits, if kind = .sint then 1 else 0]

/-- The number of a dimensionality. -/
def dimensionNumber : ImageDimension → Nat
  | .d1 => 0
  | .d2 => 1
  | .d3 => 2
  | .cube => 3

def lookupType (k : TypeKey) : E (Option Nat) := do return (← get).types.lookup k

def rememberType (k : TypeKey) (id : Nat) : E Unit :=
  modify fun d => { d with types := (k, id) :: d.types }

/-- The id of a scalar, vector or a pointer to one. -/
def valueTypeId (size : Option VectorSize) (s : Scalar) (cls : Option Nat) : E Nat := do
  /- the id of a type, which `write` declares if it is new -/
  let known (k : TypeKey) (write : Nat → E Unit) : E Nat := do
    match ← lookupType k with
    | some id => return id
    | none => do
      let id ← freshId
      rememberType k id
      write id
      return id
  let scalar : E Nat := known (.value none s none) fun id => declareScalar id s
  let plain : E Nat := match size with
    | none => scalar
    | some n => known (.value size s none) fun id => do
      declare Code.typeVector [id, ← scalar, n.count]
  match cls with
  | none => plain
  | some c => known (.value size s cls) fun id => do
    declare Code.typePointer [id, c, ← plain]

/-- The id of the type of a key; a type that is new is declared. -/
def typeId (k : TypeKey) : E Nat := do
  match ← lookupType k with
  | some id => return id
  | none =>
    match k with
    | .named _ => fail (.notValidated "type")
    | .value size s cls => valueTypeId size s cls
    | .matrix c r s => do
      let id ← freshId
      rememberType k id
      declare Code.typeMatrix [id, ← valueTypeId (some r) s none, c.count]
      return id
    | .pointer base cls => do
      let id ← freshId
      rememberType k id
      let target := ((← lookupType (.named base)).getD 0)
      declare Code.typePointer [id, cls, target]
      return id
    | .image dim arrayed cls => do
      let id ← freshId
      rememberType k id
      let (kind, depth, multi) := match cls with
        | .sampled kind multi => (kind, 0, multi)
        | .depth multi => (.float, 1, multi)
      let sampled ← valueTypeId none ⟨kind, 4⟩ none
      declare Code.typeImage [id, sampled, dimensionNumber dim, depth,
        if arrayed then 1 else 0, if multi then 1 else 0, 1, 0]
      return id
    | .sampler => do
      let id ← freshId
      rememberType k id
      declare Code.typeSampler [id]
      return id
    | .sampledImage image => do
      let id ← freshId
      rememberType k id
      declare Code.typeSampledImage [id, image]
      return id

def resolvedTypeId (r : Resolved) : E Nat := typeId (keyOf r)

/-- The id of a pointer into a storage class. A type that is a pointer itself stands for it. -/
def pointerId (t : TypeId) (cls : Nat) : E Nat := do
  let target ← typeId (.named t)
  match (← get).module.shapeOf t with
  | .pointer _ _ => return target
  | _ => typeId (.pointer t cls)

def boolTypeId : E Nat := valueTypeId none .bool none

def uintTypeId : E Nat := valueTypeId none .u32 none

/-- The words of a literal behind its type and id. -/
def literalWords : Literal → List Nat
  | .f64 b => [b % twoTo 32, b / twoTo 32]
  | .f32 b => [b]
  | .u32 n => [n]
  | .i32 n => [(n % twoTo 32).toNat]
  | .u64 n => [n % twoTo 32, n / twoTo 32]
  | .i64 n =>
    let m := (n % twoTo 64).toNat
    [m % twoTo 32, m / twoTo 32]
  | .bool _ => []
  | .abstractInt n => [(n % twoTo 32).toNat]
  | .abstractFloat b => [b]

def lookupConstant (k : ConstantKey) : E (Option Nat) := do return (← get).constants.lookup k

def rememberConstant (k : ConstantKey) (id : Nat) : E Unit :=
  modify fun d => { d with constants := (k, id) :: d.constants }

/-- The id of a literal. -/
def literalId (l : Literal) : E Nat := do
  match ← lookupConstant (.literal l) with
  | some id => return id
  | none => do
    let id ← freshId
    let type ← valueTypeId none l.scalar none
    match l with
    | .bool b => declare (if b then Code.constantTrue else Code.constantFalse) [type, id]
    | _ => declare Code.constant (type :: id :: literalWords l)
    rememberConstant (.literal l) id
    return id

/-- The id of a number used as an index. -/
def indexId (n : Nat) : E Nat := literalId (.u32 n)

def compositeId (k : TypeKey) (parts : List Nat) : E Nat := do
  match ← lookupConstant (.composite k parts) with
  | some id => return id
  | none => do
    let id ← freshId
    declare Code.constantComposite ((← typeId k) :: id :: parts)
    rememberConstant (.composite k parts) id
    return id

/-- A zero value of its own. -/
def declareNull (type : Nat) : E Nat := do
  let id ← freshId
  declare Code.constantNull [type, id]
  return id

/-- The id of the zero value of a type. -/
def nullId (type : Nat) : E Nat := do
  match ← lookupConstant (.null type) with
  | some id => return id
  | none => do
    let id ← declareNull type
    rememberConstant (.null type) id
    return id

/-- The id of a function type. -/
def functionTypeId (result : Nat) (parameters : List Nat) : E Nat := do
  match (← get).functionTypes.lookup (result, parameters) with
  | some id => return id
  | none => do
    let id ← freshId
    declare Code.typeFunction (id :: result :: parameters)
    modify fun d => { d with functionTypes := ((result, parameters), id) :: d.functionTypes }
    return id

def modifyCurrent (f : FunctionDraft → FunctionDraft) : E Unit :=
  modify fun d => { d with current := f d.current }

/-- Adds an instruction to the block that is being written. -/
def push (code : Nat) (operands : List Nat) : E Unit :=
  modifyCurrent fun f => { f with body := f.body ++ (instruction code operands).toArray }

/-- Adds an instruction that gives a value of a type. -/
def pushValue (code type : Nat) (operands : List Nat) : E Nat := do
  let id ← freshId
  push code (type :: id :: operands)
  return id

/-- Adds an instruction whose type is asked for after its id. -/
def pushTyped (code : Nat) (type : E Nat) (operands : List Nat) : E Nat := do
  let id ← freshId
  push code ((← type) :: id :: operands)
  return id

def startBlock (label : Nat) : E Unit :=
  modifyCurrent fun f => { f with label := label, body := #[] }

/-- Ends the block that is being written. -/
def endBlock (code : Nat) (operands : List Nat) : E Unit :=
  modifyCurrent fun f =>
    let start := (instruction Code.label [f.label]).toArray
    let start := if f.blockCount = 0 then start ++ f.declarations else start
    { f with
      blocks := f.blocks ++ start ++ f.body ++ (instruction code operands).toArray
      blockCount := f.blockCount + 1
      body := #[] }

end ShaderConvert.Spirv.Emission
