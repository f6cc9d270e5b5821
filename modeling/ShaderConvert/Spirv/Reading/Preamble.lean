import ShaderConvert.Features.Capability
import ShaderConvert.Spirv.Enumerants
import ShaderConvert.Spirv.Reading.Reader

/-
What stands before the types of a module: capabilities, extensions, entry points, names and
decorations.

Capabilities and extensions that are not supported are refused only if the settings ask for it.
-/
namespace ShaderConvert.Spirv.Reading

open Ir

def supportedCapabilities : List Nat :=
  [0, 1, 2, 9, 10, 11, 22, 28, 30, 32, 33, 34, 35, 39, 43, 44, 45, 49, 50, 51, 61, 62, 63, 64, 65, 66,
    4433, 4434, 4439, 5345]

def supportedExtensions : List String :=
  ["SPV_KHR_storage_buffer_storage_class", "SPV_KHR_vulkan_memory_model", "SPV_KHR_multiview",
    "SPV_EXT_shader_atomic_float_add", "SPV_KHR_16bit_storage"]

/-- The one set of instructions that can be imported. -/
def supportedSet : String := "GLSL.std.450"

def readCapability (h : Head) : Read Unit := do
  enter .capability h
  h.expect 2
  let value ← next
  match Capability.name? value with
  | none => throw (.unknownCapability value)
  | some name =>
    if !supportedCapabilities.contains value && (← get).settings.strictCapabilities then
      throw (.unsupportedCapability name)

def readExtension (h : Head) : Read Unit := do
  enter .extension h
  h.expectAtLeast 2
  let name ← wholeText (h.count - 1)
  if !supportedExtensions.contains name && (← get).settings.strictCapabilities then
    throw (.unsupportedExtension name)

def readImport (h : Head) : Read Unit := do
  enter .extension h
  h.expectAtLeast 3
  let id ← next
  let name ← wholeText (h.count - 2)
  if name ≠ supportedSet then throw (.unsupportedSet name)
  modify fun r => { r with extendedSet := some id }

/-- The models themselves do not matter. -/
def readMemoryModel (h : Head) : Read Unit := do
  enter .memoryModel h
  h.expect 3
  discard (nextMany 2)

def stageOf? : Nat → Option ShaderStage
  | 0 => some .vertex
  | 4 => some .fragment
  | 5 => some .compute
  | _ => none

def readEntryPoint (h : Head) : Read Unit := do
  enter .entryPoint h
  h.expectAtLeast 4
  let model ← next
  let id ← next
  let known := Family.executionModel.byValue? model
  if known.isNone then throw (.unsupported .executionModel model)
  let (name, left) ← nextText (h.count - 3)
  match stageOf? model with
  | none => throw (.unsupported .executionModel model)
  | some stage =>
    let interface ← takeUpTo left
    modify fun r => { r with entryPoints := (id, { name, stage, interface }) :: r.entryPoints }

def setEntryPoint (id : Nat) (e : Announced) : Read Unit :=
  modify fun r => { r with entryPoints := (id, e) :: r.entryPoints }

/-- The size of a workgroup, which takes three operands. -/
def workgroupSizeOf : List Nat → Except Fault (Nat × Nat × Nat)
  | x :: y :: z :: _ => .ok (x, y, z)
  | few => .error (.shortList few.length)

def readExecutionMode (h : Head) : Read Unit := do
  enter .executionMode h
  h.expectAtLeast 3
  let id ← next
  let mode ← next
  let operands ← takeUpTo (h.count - 3)
  let e ← find (← get).entryPoints id
  match mode with
  -- early tests, and depth that stays, grows or shrinks
  | 9 | 14 | 15 | 16 => setEntryPoint id { e with earlyDepthTest := true }
  -- the origin is always above, and a depth that is written shows by itself
  | 7 | 12 => return ()
  | 17 => setEntryPoint id { e with workgroupSize := ← workgroupSizeOf operands }
  | _ => throw (.unsupported .executionMode mode)

def readString (h : Head) : Read Unit := do
  enter .source h
  h.expectAtLeast 3
  discard next
  discard (nextText (h.count - 2))

def readSource (h : Head) : Read Unit := do
  enter .source h
  discard (nextMany (h.count - 1))

def readSourceExtension (h : Head) : Read Unit := do
  enter .source h
  h.expectAtLeast 2
  discard (nextText (h.count - 1))

def readName (h : Head) : Read Unit := do
  enter .name h
  h.expectAtLeast 3
  let id ← next
  let name ← wholeText (h.count - 2)
  let d ← takeDecorations id
  setDecorations id { d with name := some name }

def readMemberName (h : Head) : Read Unit := do
  enter .name h
  h.expectAtLeast 4
  let id ← next
  let member ← next
  let name ← wholeText (h.count - 3)
  let d ← takeMemberDecorations id member
  setMemberDecorations id member { d with name := some name }

def readModuleProcessed (h : Head) : Read Unit := do
  enter .name h
  h.expectAtLeast 2
  discard (wholeText (h.count - 1))

/-- One more decoration; `lead` words of the instruction stand before it. -/
def addDecoration (h : Head) (lead : Nat) (d : Decorations) : Read Decorations := do
  let value ← next
  if (Family.decoration.byValue? value).isNone then throw (.invalid .decoration value)
  let operand : Read Nat := do
    h.expect (lead + 2)
    next
  -- a stride of zero says nothing
  let stride : Read (Option Nat) := do
    let n ← operand
    return if n = 0 then none else some n
  match value with
  | Decoration.builtIn => return { d with builtIn := some (← operand) }
  | Decoration.location => return { d with location := some (← operand) }
  | Decoration.descriptorSet => return { d with group := some (← operand) }
  | Decoration.binding => return { d with binding := some (← operand) }
  | Decoration.bufferBlock => return { d with isStorageBuffer := true }
  | Decoration.offset => return { d with offset := some (← operand) }
  | Decoration.arrayStride => return { d with arrayStride := ← stride }
  | Decoration.matrixStride => return { d with matrixStride := ← stride }
  | Decoration.invariant => return { d with invariant := true }
  | Decoration.noPerspective => return { d with interpolation := some .linear }
  | Decoration.flat => return { d with interpolation := some .flat }
  | Decoration.centroid => return { d with sampling := some .centroid }
  | Decoration.sample => return { d with sampling := some .sample }
  | Decoration.nonReadable => return { d with nonReadable := true }
  | Decoration.nonWritable => return { d with nonWritable := true }
  | Decoration.colMajor => return { d with rowMajor := false }
  | Decoration.rowMajor => return { d with rowMajor := true }
  | Decoration.specId => return { d with overrideId := some (← next) }
  | _ => do
    discard (nextMany (h.count - lead - 1))
    return d

def readDecorate (h : Head) : Read Unit := do
  enter .decoration h
  h.expectAtLeast 3
  let id ← next
  let d ← takeDecorations id
  setDecorations id (← addDecoration h 2 d)

def readMemberDecorate (h : Head) : Read Unit := do
  enter .decoration h
  h.expectAtLeast 4
  let id ← next
  let member ← next
  let d ← takeMemberDecorations id member
  setMemberDecorations id member (← addDecoration h 3 d)

end ShaderConvert.Spirv.Reading
