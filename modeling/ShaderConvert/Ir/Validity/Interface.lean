import ShaderConvert.Ir.EntryPointFault
import ShaderConvert.Ir.Validity.Function

/-
Which global variables and entry points are valid.
-/
namespace ShaderConvert.Ir

inductive GlobalFault where
  | usage (space : AddressSpace)
  | type (space : AddressSpace)
  | flags (required seen : TypeFlags)
  | binding
  | alignment (space : AddressSpace) (type : TypeId) (reason : Disalignment)
  | initNotConstant
  | initType
  | initSpace (space : AddressSpace)
  | writeOnly
deriving Inhabited

/-- The fault and its own causes, outermost first. -/
def GlobalFault.texts : GlobalFault → List String
  | usage s => ["Usage isn't compatible with address space " ++ spaceTitle s]
  | type s => ["Type isn't compatible with address space " ++ spaceTitle s]
  | flags required seen =>
    ["Type flags " ++ seen.title ++ " do not meet the required " ++ required.title]
  | binding => ["Binding decoration is missing or not applicable"]
  | alignment s t r =>
    ["Alignment requirements for address space " ++ spaceTitle s ++ s!" are not met by [{t}]",
      r.message]
  | initNotConstant => ["Initializer must be an override-expression"]
  | initType => ["Initializer doesn't match the variable type"]
  | initSpace s => ["Initializer can't be used with address space " ++ spaceTitle s]
  | writeOnly => ["Storage address space doesn't support write-only access"]

/-- Why a value cannot pass between stages. -/
inductive VaryingFault where
  | type (type : TypeId)
  | notShareable (type : TypeId)
  | interpolation
  | missingInterpolation
  | builtInStage (value : BuiltIn)
  | builtInType (value : BuiltIn)
  | missingBinding
  | memberMissingBinding (index : Nat)
  | collision (location : Nat)
  | repeatedBuiltIn (value : BuiltIn)
deriving Repr, DecidableEq, Inhabited

def VaryingFault.message : VaryingFault → String
  | type t => s!"The type [{t}] does not match the varying"
  | notShareable t => s!"The type [{t}] cannot be used for user-defined entry point inputs or outputs"
  | interpolation => "Interpolation is not valid"
  | missingInterpolation =>
    "Interpolation must be specified on vertex shader outputs and fragment shader inputs"
  | builtInStage b => "Built-in " ++ b.title ++ " is not available at this stage"
  | builtInType b => "Built-in type for " ++ b.title ++ " is invalid"
  | missingBinding => "Entry point arguments and return values must all have bindings"
  | memberMissingBinding i => s!"Struct member {i} is missing a binding"
  | collision n => s!"Multiple bindings at location {n} are present"
  | repeatedBuiltIn b => "Built-in " ++ b.title ++ " is present more than once"

namespace Validity

/-- What a space asks of the type of a variable, and whether the variable has a binding. -/
def checkSpace (m : Module) (info : TypeInfo) (v : GlobalVariable) :
    Except GlobalFault (List TypeFlag × Bool) :=
  match v.space with
  | .function => .error (.usage v.space)
  | .storage access =>
    match info.storageLayout with
    | .error (t, r) => .error (.alignment v.space t r)
    | .ok _ =>
      if access.store && !access.load then .error .writeOnly
      else .ok ([.data, .hostShareable], true)
  | .uniform =>
    match info.uniformLayout with
    | .error (t, r) => .error (.alignment v.space t r)
    | .ok _ => .ok ([.data, .copy, .sized, .hostShareable], true)
  | .handle =>
    match m.shapeOf v.type with
    | .image _ _ _ | .sampler _ => .ok ([], true)
    | _ => .error (.type v.space)
  | .privateSpace => .ok ([.constructible], false)
  | .workGroup => .ok ([.data, .sized], false)
  | .pushConstant => .ok ([.data, .copy, .hostShareable, .sized], false)

def checkGlobal (m : Module) (typeInfo : Array TypeInfo) (types : Array Resolved)
    (kinds : Array Bool) (v : GlobalVariable) : Except GlobalFault Unit := do
  let info := typeInfo[v.type]?.getD default
  let (required, bound) ← checkSpace m info v
  if !info.flags.hasAll ⟨required⟩ then .error (.flags ⟨required⟩ info.flags)
  else if bound != v.binding.isSome then .error .binding
  else
    match v.init with
    | none => .ok ()
    | some e =>
      if v.space ≠ .privateSpace then .error (.initSpace v.space)
      else if !(kinds[e]?.getD false) then .error .initNotConstant
      else if !((m.shapeOf v.type).equivalent m.types
          ((types[e]?.getD default).shapeIn m.types)) then .error .initType
      else .ok ()

/-- The stage and direction at which a built-in value is there, and its shape. -/
def builtInFits (stage : ShaderStage) (output : Bool) (shape : Shape) (b : BuiltIn) :
    Bool × Bool :=
  let vec3 : Shape := .vector .three .u32
  match b with
  | .baseInstance | .baseVertex | .instanceIndex | .vertexIndex =>
    (stage == .vertex && !output, shape == .scalar .u32)
  | .clipDistance | .cullDistance =>
    (stage == .vertex && output, match shape with
      | .array _ _ _ => true
      | _ => false)
  | .pointSize => (stage == .vertex && output, shape == .scalar .f32)
  | .pointCoord => (stage == .fragment && !output, shape == .vector .two .f32)
  | .position _ =>
    ((stage == .vertex && output) || (stage == .fragment && !output), shape == .vector .four .f32)
  | .viewIndex => (stage != .compute && !output, shape == .scalar .i32)
  | .fragDepth => (stage == .fragment && output, shape == .scalar .f32)
  | .frontFacing => (stage == .fragment && !output, shape == .scalar .bool)
  | .primitiveIndex | .sampleIndex => (stage == .fragment && !output, shape == .scalar .u32)
  | .sampleMask => (stage == .fragment, shape == .scalar .u32)
  | .localInvocationIndex | .numSubgroups | .subgroupId =>
    (stage == .compute && !output, shape == .scalar .u32)
  | .globalInvocationId | .localInvocationId | .workGroupId | .workGroupSize | .numWorkGroups =>
    (stage == .compute && !output, shape == vec3)
  | .subgroupSize | .subgroupInvocationId => (stage != .vertex && !output, shape == .scalar .u32)

/-- The locations and built-in values that are taken. -/
structure Taken where
  locations : List Nat := []
  builtIns : List BuiltIn := []

/-- A position counts as one value whether it is invariant or not. -/
def canonicalBuiltIn : BuiltIn → BuiltIn
  | .position _ => .position false
  | b => b

def checkVarying (m : Module) (typeInfo : Array TypeInfo) (stage : ShaderStage) (output : Bool)
    (taken : Taken) (t : TypeId) : Binding → Except VaryingFault Taken
  | .builtIn b =>
    let (there, fits) := builtInFits stage output (m.shapeOf t) b
    if taken.builtIns.contains (canonicalBuiltIn b) then .error (.repeatedBuiltIn b)
    else if !there then .error (.builtInStage b)
    else if !fits then .error (.builtInType b)
    else .ok { taken with builtIns := canonicalBuiltIn b :: taken.builtIns }
  | .location n second interpolation _ =>
    let interpolated := match stage with
      | .vertex => output
      | .fragment => !output
      | .compute => false
    if !(typeInfo[t]?.getD default).flags.has .ioShareable then .error (.notShareable t)
    else if !second && taken.locations.contains n then .error (.collision n)
    else
      match (m.shapeOf t).scalarKind? with
      | none => .error (.type t)
      | some .float =>
        if interpolated && interpolation.isNone then .error .missingInterpolation
        else .ok { taken with locations := n :: taken.locations }
      | some _ =>
        if interpolated && interpolation ≠ some .flat then .error .interpolation
        else .ok { taken with locations := n :: taken.locations }

/-- What passes in or out as a whole, or member by member. -/
def checkVaryings (m : Module) (typeInfo : Array TypeInfo) (stage : ShaderStage) (output : Bool)
    (taken : Taken) (t : TypeId) (binding : Option Binding) :
    Except (VaryingFault × List (Span × String)) Taken :=
  let here := [(m.types.span t, handleLabel "Type" t)]
  let located (x : Except VaryingFault Taken) :
      Except (VaryingFault × List (Span × String)) Taken :=
    match x with
    | .ok k => .ok k
    | .error f => .error (f, here)
  match binding with
  | some b => located (checkVarying m typeInfo stage output taken t b)
  | none =>
    match m.shapeOf t with
    | .struct members _ =>
      members.zipIdx.foldlM (fun k (member, i) =>
        match member.binding with
        | none => .error (.memberMissingBinding i, here)
        | some b => located (checkVarying m typeInfo stage output k member.type b)) taken
    | _ => .error (.missingBinding, [])

/-- The largest side of a work group. -/
def maxWorkgroupSide : Nat := 0x4000

/-- What may be done with a variable. -/
def allowedUse (space : AddressSpace) : GlobalUse :=
  match space with
  | .uniform | .handle => ⟨true, false, true⟩
  | .storage a => ⟨a.load, a.store, true⟩
  | .privateSpace | .workGroup | .function => ⟨true, true, true⟩
  | .pushConstant => ⟨true, false, false⟩

/-- The variables that an entry point uses: each as it may be, no two at one place. -/
def checkResources (m : Module) (info : FunctionInfo) :
    Except (EntryPointFault × List (Span × String)) Unit := do
  let used := m.globals.entries.filter fun (i, _) => !(info.useOf i).isEmpty
  let pushed := used.filter fun (_, v) => v.space = .pushConstant
  if pushed.length > 1 then .error (.moreThanOnePushConstant, [])
  else
    discard (used.foldlM (fun (seen : List ResourceBinding) (i, v) =>
      let here := [(m.globals.span i, handleLabel "GlobalVariable" i)]
      if !(info.useOf i).within (allowedUse v.space) then
        .error (.invalidGlobalUsage i (info.useOf i).title, here)
      else
        match v.binding with
        | some b => if seen.contains b then .error (.bindingCollision i, here) else .ok (b :: seen)
        | none => .ok seen) [])

/-- Is an entry point valid, given those before it? -/
def checkEntryPoint (m : Module) (typeInfo : Array TypeInfo) (before : Array FunctionInfo)
    (e : EntryPoint) : Verdict FunctionInfo := do
  let wrong {α : Type} (f : EntryPointFault) (spans : List (Span × String)) : Verdict α :=
    .error (.ofSpans (f.causes e.stage e.name) spans)
  let (x, y, z) := e.workgroupSize
  let outOfRange (n : Nat) : Bool := n == 0 || n > maxWorkgroupSide
  if e.earlyDepthTest && e.stage != .fragment then wrong .unexpectedEarlyDepthTest []
  else if e.stage == .compute && (outOfRange x || outOfRange y || outOfRange z) then
    wrong .outOfRangeWorkgroupSize []
  else if e.stage != .compute && e.workgroupSize != (0, 0, 0) then
    wrong .unexpectedWorkgroupSize []
  else
    let info ← match checkFunction m typeInfo before true e.function with
      | .ok info => .ok info
      | .error i => wrong (.function i.causes) i.spans
    if !info.stages.has e.stage then wrong .forbiddenStageOperations []
    else
      discard (e.function.arguments.zipIdx.foldlM (fun (taken : Taken) (a, i) =>
        match checkVaryings m typeInfo e.stage false taken a.type a.binding with
        | .ok k => .ok k
        | .error (f, spans) => wrong (.argument i [f.message]) spans) {})
      match e.function.result with
      | some r =>
        match checkVaryings m typeInfo e.stage true {} r.type r.binding with
        | .error (f, spans) => wrong (.result [f.message]) spans
        | .ok taken =>
          if e.stage == .vertex && !taken.builtIns.contains (.position false) then
            wrong .missingVertexOutputPosition []
          else .ok ()
      | none => if e.stage == .vertex then wrong .missingVertexOutputPosition [] else .ok ()
      match checkResources m info with
      | .error (f, spans) => wrong f spans
      | .ok () => return info

end Validity

end ShaderConvert.Ir
