import ShaderConvert.Number.Power
import ShaderConvert.Spirv.Reading.Constant

/-
Global variables.

Inputs and outputs become private variables; the entry points that list them move the values in and
out. An output that is a built-in value starts with the default of that value.
-/
namespace ShaderConvert.Spirv.Reading

open Ir

/-- The value of an output before the program sets it. -/
def defaultOutput (b : Option BuiltIn) (type : TypeId) (place : Span) : Read ExprId := do
  let push (e : Expression) : Read ExprId := pushGlobalExpression e place
  -- the bits of 1.0
  let unit : Nat := 0x3F800000
  match b with
  | some (.position _) => do
    let origin ← push (.literal (.f32 0))
    let scale ← push (.literal (.f32 unit))
    push (.compose type [origin, origin, origin, scale])
  | some .pointSize => push (.literal (.f32 unit))
  | some .fragDepth => push (.literal (.f32 0))
  | some .sampleMask => push (.literal (.u32 (twoTo 32 - 1)))
  | _ => push (.zeroValue type)

def builtInOf? : Option Binding → Option BuiltIn
  | some (.builtIn b) => some b
  | _ => none

/-- The value of an output variable before the program sets it, if it needs one. -/
def outputInit (binding : Option Binding) (type : TypeId) (place : Span) :
    Read (Option ExprId) := do
  match binding with
  | some (.builtIn b) => some <$> defaultOutput (some b) type place
  | some _ => return none
  | none =>
    match ← shapeOf type with
    | .struct members _ =>
      let parts ← members.mapM fun m => defaultOutput (builtInOf? m.binding) m.type place
      some <$> pushGlobalExpression (.compose type parts) place
    | _ => return none

/-- The unsigned shape of an input that the program may take as signed. -/
def unsignedInput : BuiltIn → Option Shape
  | .baseInstance | .baseVertex | .instanceIndex | .sampleIndex | .vertexIndex | .primitiveIndex
  | .localInvocationIndex => some (.scalar .u32)
  | .globalInvocationId | .localInvocationId | .workGroupId | .workGroupSize =>
    some (.vector .three .u32)
  | _ => none

/-- The type under which an input comes in. -/
def inputType (binding : Binding) (type : TypeId) : Read TypeId := do
  match (builtInOf? (some binding)).bind unsignedInput, (← shapeOf type).scalarKind? with
  | some shape, some .sint => internType ⟨none, shape⟩ .undefined
  | _, _ => return type

def restrict (d : Decorations) : AddressSpace → AddressSpace
  | .storage a => .storage ⟨a.load && d.access.load, a.store && d.access.store⟩
  | other => other

def readVariable (h : Head) : Read Unit := do
  enter .type h
  h.expectAtLeast 4
  let typeId ← next
  let id ← next
  let cls ← next
  let init ←
    if h.count > 4 then do
      h.expect 5
      let c ← findConstant (← next)
      some <$> pushGlobalExpression c.place.expression h.span
    else pure none
  let d ← takeDecorations id
  let t ← findType typeId
  let type := match ← shapeOf t.type with
    | .pointer base _ => base
    | _ => t.type
  let origin ← match (← get).storageBuffers.lookup type with
    | some access => pure (Origin.space (.storage access))
    | none => originOf cls
  let (role, v) ← match origin with
    | .space space =>
      pure (Role.plain, GlobalVariable.mk d.name (restrict d space) d.resource type init)
    | .input => do
      let binding ← d.varying
      let outer ← inputType binding type
      pure (Role.input ⟨d.name, outer, some binding⟩, ⟨d.name, .privateSpace, none, type, none⟩)
    | .output => do
      let binding := d.varying.toOption
      let init ← outputInit binding type h.span
      pure (Role.output ⟨type, binding⟩, ⟨d.name, .privateSpace, none, type, init⟩)
  modify fun r =>
    { r with
      globals := (id, ⟨role, r.module.globals.size, typeId⟩) :: r.globals
      module := { r.module with globals := r.module.globals.push v h.span } }

end ShaderConvert.Spirv.Reading
