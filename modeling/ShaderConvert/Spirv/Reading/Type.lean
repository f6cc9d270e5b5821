import ShaderConvert.Number.Power
import ShaderConvert.Spirv.Reading.Preamble

/-
The types of a module.

A pointer into a storage class becomes a pointer into an address space; a pointer to an image or a
sampler is the image or sampler itself. Structs get offsets and a size from their members where
nothing is said.
-/
namespace ShaderConvert.Spirv.Reading

open Ir

/-- Where the value of a variable of a storage class comes from. -/
inductive Origin where
  | space (space : AddressSpace)
  | input
  | output
deriving Repr, DecidableEq

def originOf (cls : Nat) : Except Fault Origin :=
  match cls with
  | StorageClass.function => .ok (.space .function)
  | StorageClass.input => .ok .input
  | StorageClass.output => .ok .output
  | StorageClass.private_ => .ok (.space .privateSpace)
  | StorageClass.uniformConstant => .ok (.space .handle)
  | StorageClass.storageBuffer => .ok (.space (.storage ⟨true, true⟩))
  | StorageClass.uniform => .ok (.space .uniform)
  | StorageClass.workgroup => .ok (.space .workGroup)
  | StorageClass.pushConstant => .ok (.space .pushConstant)
  | other => .error (.unsupported .storageClass other)

def builtInOf (value : Nat) (invariant : Bool) : Except Fault BuiltIn :=
  match value with
  | 0 | 15 => .ok (.position invariant)
  | 1 => .ok .pointSize
  | 3 => .ok .clipDistance
  | 4 => .ok .cullDistance
  | 7 => .ok .primitiveIndex
  | 16 => .ok .pointCoord
  | 17 => .ok .frontFacing
  | 18 => .ok .sampleIndex
  | 20 => .ok .sampleMask
  | 22 => .ok .fragDepth
  | 24 => .ok .numWorkGroups
  | 25 => .ok .workGroupSize
  | 26 => .ok .workGroupId
  | 27 => .ok .localInvocationId
  | 28 => .ok .globalInvocationId
  | 29 => .ok .localInvocationIndex
  | 36 => .ok .subgroupSize
  | 38 => .ok .numSubgroups
  | 40 => .ok .subgroupId
  | 41 => .ok .subgroupInvocationId
  | 42 => .ok .vertexIndex
  | 43 => .ok .instanceIndex
  | 4424 => .ok .baseVertex
  | 4425 => .ok .baseInstance
  | 4440 => .ok .viewIndex
  | other => .error (.unsupported .builtIn other)

/-- A built-in value or a location, but not both. -/
def Decorations.varying (d : Decorations) : Except Fault Binding :=
  match d.builtIn, d.location with
  | some b, none => do return .builtIn (← builtInOf b d.invariant)
  | none, some n => .ok (.location n false d.interpolation d.sampling)
  | _, _ => .error .missingLocation

def widthOf (bits : Nat) : Except Fault Nat :=
  if bits / 8 < 256 then .ok (bits / 8) else .error (.invalid .typeWidth bits)

def vectorSizeOf (n : Nat) : Except Fault VectorSize :=
  match VectorSize.ofCount? n with
  | some v => .ok v
  | none => .error (.invalid .vectorSize n)

/-- A type that is named by its own decorations. -/
def knowNamed (id : Nat) (shape : Shape) (base : Option Nat) (h : Head) : Read Unit := do
  let d ← takeDecorations id
  discard (knowType id ⟨d.name, shape⟩ base h)

def readVoid (h : Head) : Read Unit := do
  enter .type h
  h.expect 2
  let id ← next
  modify fun r => { r with voidType := some id }

def readBool (h : Head) : Read Unit := do
  enter .type h
  h.expect 2
  let id ← next
  knowNamed id (.scalar .bool) none h

def readInt (h : Head) : Read Unit := do
  enter .type h
  h.expect 4
  let id ← next
  let bits ← next
  let sign ← next
  let kind ← match sign with
    | 0 => pure ScalarKind.uint
    | 1 => pure ScalarKind.sint
    | _ => throw (.invalid .sign sign)
  knowNamed id (.scalar ⟨kind, ← widthOf bits⟩) none h

def readFloat (h : Head) : Read Unit := do
  enter .type h
  h.expect 3
  let id ← next
  let bits ← next
  knowNamed id (.scalar ⟨.float, ← widthOf bits⟩) none h

def readVector (h : Head) : Read Unit := do
  enter .type h
  h.expect 4
  let id ← next
  let baseId ← next
  let base ← findType baseId
  match ← shapeOf base.type with
  | .scalar s =>
    let n ← next
    knowNamed id (.vector (← vectorSizeOf n) s) (some baseId) h
  | _ => throw (.invalid .innerType baseId)

def readMatrix (h : Head) : Read Unit := do
  enter .type h
  h.expect 4
  let id ← next
  let baseId ← next
  let n ← next
  let base ← findType baseId
  match ← shapeOf base.type with
  | .vector rows s => knowNamed id (.matrix (← vectorSizeOf n) rows s) (some baseId) h
  | _ => throw (.invalid .innerType baseId)

def readFunctionType (h : Head) : Read Unit := do
  enter .type h
  h.expectAtLeast 3
  let id ← next
  let result ← next
  let parameters ← takeUpTo (h.count - 3)
  modify fun r => { r with functionTypes := (id, ⟨result, parameters⟩) :: r.functionTypes }

def isDynamicArray : Shape → Bool
  | .array _ .dynamic _ => true
  | _ => false

def isStorage : AddressSpace → Bool
  | .storage _ => true
  | _ => false

/-- Inputs and outputs are kept in private variables. -/
def pointerSpace (cls : Nat) (base : TypeId) : Read AddressSpace := do
  let r ← get
  match (r.module.shapeOf base).space? with
  | some space => return space
  | none =>
    if (r.storageBuffers.lookup base).isSome then return .storage {}
    match ← originOf cls with
    | .space space => return space
    | .input | .output => return .privateSpace

def readPointer (h : Head) : Read Unit := do
  enter .type h
  h.expect 4
  let id ← next
  let cls ← next
  let baseId ← next
  let d ← takeDecorations id
  let base ← findType baseId
  let space ← pointerSpace cls base.type
  if isDynamicArray (← shapeOf base.type) && !isStorage space then throw .runtimeArraySpace
  if space = .handle then modify fun r => { r with types := (id, base) :: r.types }
  else discard (knowType id ⟨d.name, .pointer base.type space⟩ (some baseId) h)

/-- The number that a constant is, if it is a whole one of 32 bits. -/
def constantNumber (c : KnownConstant) : Read (Option Nat) := do
  let m := (← get).module
  match c.place with
  | .override _ => return none
  | .constant i =>
    match m.globalExpressions.get (m.constants.get i).init with
    | .literal (.u32 n) => return some n
    | .literal (.i32 n) => return some (n % twoTo 32).toNat
    | _ => return none

def strideOf (d : Decorations) (base : TypeId) : Read Nat := do
  let ls ← layouts
  return d.arrayStride.getD (ls[base]?.getD default).stride

def readArray (h : Head) : Read Unit := do
  enter .type h
  h.expect 4
  let id ← next
  let baseId ← next
  let lengthId ← next
  let length ← findConstant lengthId
  match ← constantNumber length with
  | some (n + 1) =>
    let d ← takeDecorations id
    let base ← findType baseId
    let stride ← strideOf d base.type
    discard (knowType id ⟨d.name, .array base.type (.constant (n + 1)) stride⟩ (some baseId) h)
  | _ => throw (.invalid .arraySize lengthId)

def readRuntimeArray (h : Head) : Read Unit := do
  enter .type h
  h.expect 3
  let id ← next
  let baseId ← next
  let d ← takeDecorations id
  let base ← findType baseId
  let stride ← strideOf d base.type
  discard (knowType id ⟨d.name, .array base.type .dynamic stride⟩ (some baseId) h)

/-- What has been found of the members of a struct. -/
structure Members where
  members : List StructMember := []
  known : List KnownMember := []
  access : StorageAccess := {}
  stop : Nat := 0
  alignment : Nat := 1

def checkStride (d : Decorations) : Shape → Except Fault Unit
  | .matrix columns rows s =>
    match d.matrixStride with
    | some stride =>
      if stride = rows.alignment * s.width then .ok ()
      else .error (.matrixStride stride columns.count rows.count s.width)
    | none => .ok ()
  | _ => .ok ()

def addMember (id : Nat) (ls : Array Layout) (ms : Members) (index : Nat) : Read Members := do
  let typeId ← next
  let t ← findType typeId
  let d ← takeMemberDecorations id index
  let layout := ls[t.type]?.getD default
  let offset := d.offset.getD (roundUp layout.alignment ms.stop)
  checkStride d (← shapeOf t.type)
  let a := d.access
  return {
    members := ms.members ++ [⟨d.name, t.type, d.varying.toOption, offset⟩]
    known := ms.known ++ [⟨typeId, d.rowMajor⟩]
    access := ⟨ms.access.load || a.load, ms.access.store || a.store⟩
    stop := offset + layout.size
    alignment := max ms.alignment layout.alignment }

def readStruct (h : Head) : Read Unit := do
  enter .type h
  h.expectAtLeast 2
  let id ← next
  let d ← takeDecorations id
  let ls ← layouts
  let ms ← (List.range (h.count - 2)).foldlM (addMember id ls) {}
  let span := roundUp ms.alignment ms.stop
  let type ← knowType id ⟨d.name, .struct ms.members span⟩ none h
  modify fun r =>
    { r with
      storageBuffers :=
        if d.isStorageBuffer then (type, ms.access) :: r.storageBuffers else r.storageBuffers
      members := (ms.known.zipIdx.map fun (k, i) => ((type, i), k)) ++ r.members }

def dimensionOf (n : Nat) : Except Fault ImageDimension :=
  match n with
  | 0 => .ok .d1
  | 1 => .ok .d2
  | 2 => .ok .d3
  | 3 => .ok .cube
  | _ => .error (.unsupported .imageDimension n)

/-- How many numbers say a place in an image, if more than one. -/
def coordinateSize : ImageDimension → Option VectorSize
  | .d1 => none
  | .d2 => some .two
  | .d3 | .cube => some .three

/-- An image brings along the type of places in it. -/
def readImage (h : Head) : Read Unit := do
  enter .type h
  h.expect 9
  let id ← next
  let sampledId ← next
  let dimension ← next
  let depth ← next
  let arrayed ← next
  let multi ← next
  discard next
  let format ← next
  let dimension ← dimensionOf dimension
  let d ← takeDecorations id
  let place := match coordinateSize dimension with
    | none => Shape.scalar .f32
    | some n => Shape.vector n .f32
  discard (internType ⟨none, place⟩ .undefined)
  let sampled ← findType sampledId
  match (← shapeOf sampled.type).scalarKind? with
  | none => throw (.invalidType .imageBase sampled.type)
  | some kind =>
    let cls ←
      if depth = 1 then pure (ImageClass.depth (multi != 0))
      else if format ≠ 0 then throw (.unsupported .imageFormat format)
      else pure (ImageClass.sampled kind (multi != 0))
    discard (knowType id ⟨d.name, .image dimension (arrayed != 0) cls⟩ (some sampledId) h)

/-- An image together with a sampler is known by the image. -/
def readSampledImage (h : Head) : Read Unit := do
  enter .type h
  h.expect 3
  let id ← next
  let imageId ← next
  let image ← findType imageId
  modify fun r => { r with types := (id, ⟨image.type, some imageId⟩) :: r.types }

def readSampler (h : Head) : Read Unit := do
  enter .type h
  h.expect 2
  let id ← next
  knowNamed id (.sampler false) none h

end ShaderConvert.Spirv.Reading
