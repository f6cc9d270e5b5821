import ShaderConvert.Ir.Scalar
import ShaderConvert.Summary

/-
Types of shader programs.

A type refers to other types by their place in the list of types of its module, and only to earlier
ones. Two types are the same if they have the same name and the same shape.
-/
namespace ShaderConvert.Ir

/-- The place of a type in its module. -/
abbrev TypeId := Nat

/-- Values that a stage gets from or gives to the pipeline. -/
inductive BuiltIn where
  | position (invariant : Bool)
  | viewIndex
  | baseInstance
  | baseVertex
  | clipDistance
  | cullDistance
  | instanceIndex
  | pointSize
  | vertexIndex
  | fragDepth
  | pointCoord
  | frontFacing
  | primitiveIndex
  | sampleIndex
  | sampleMask
  | globalInvocationId
  | localInvocationId
  | localInvocationIndex
  | workGroupId
  | workGroupSize
  | numWorkGroups
  | numSubgroups
  | subgroupId
  | subgroupSize
  | subgroupInvocationId
deriving Repr, DecidableEq, Inhabited

namespace BuiltIn

/-- The name in messages. -/
def title : BuiltIn → String
  | position b => "Position \x7b invariant: " ++ (if b then "true" else "false") ++ " \x7d"
  | viewIndex => "ViewIndex"
  | baseInstance => "BaseInstance"
  | baseVertex => "BaseVertex"
  | clipDistance => "ClipDistance"
  | cullDistance => "CullDistance"
  | instanceIndex => "InstanceIndex"
  | pointSize => "PointSize"
  | vertexIndex => "VertexIndex"
  | fragDepth => "FragDepth"
  | pointCoord => "PointCoord"
  | frontFacing => "FrontFacing"
  | primitiveIndex => "PrimitiveIndex"
  | sampleIndex => "SampleIndex"
  | sampleMask => "SampleMask"
  | globalInvocationId => "GlobalInvocationId"
  | localInvocationId => "LocalInvocationId"
  | localInvocationIndex => "LocalInvocationIndex"
  | workGroupId => "WorkGroupId"
  | workGroupSize => "WorkGroupSize"
  | numWorkGroups => "NumWorkGroups"
  | numSubgroups => "NumSubgroups"
  | subgroupId => "SubgroupId"
  | subgroupSize => "SubgroupSize"
  | subgroupInvocationId => "SubgroupInvocationId"

/-- The name in source texts; a few have none. -/
def sourceName? : BuiltIn → Option String
  | position _ => some "position"
  | viewIndex => some "view_index"
  | instanceIndex => some "instance_index"
  | vertexIndex => some "vertex_index"
  | fragDepth => some "frag_depth"
  | frontFacing => some "front_facing"
  | primitiveIndex => some "primitive_index"
  | sampleIndex => some "sample_index"
  | sampleMask => some "sample_mask"
  | globalInvocationId => some "global_invocation_id"
  | localInvocationId => some "local_invocation_id"
  | localInvocationIndex => some "local_invocation_index"
  | workGroupId => some "workgroup_id"
  | numWorkGroups => some "num_workgroups"
  | numSubgroups => some "num_subgroups"
  | subgroupId => some "subgroup_id"
  | subgroupSize => some "subgroup_size"
  | subgroupInvocationId => some "subgroup_invocation_id"
  | baseInstance | baseVertex | clipDistance | cullDistance | pointSize | pointCoord
  | workGroupSize => none

/-- The values that a source text can name. -/
def named : List BuiltIn :=
  [position false, viewIndex, instanceIndex, vertexIndex, fragDepth, frontFacing, primitiveIndex,
    sampleIndex, sampleMask, globalInvocationId, localInvocationId, localInvocationIndex,
    workGroupId, numWorkGroups, numSubgroups, subgroupId, subgroupSize, subgroupInvocationId]

def ofSourceName? (s : String) : Option BuiltIn := named.find? (·.sourceName? = some s)

end BuiltIn

/-- How a value is carried from vertices to fragments. -/
inductive Interpolation where
  | perspective
  | linear
  | flat
deriving Repr, DecidableEq, Inhabited

namespace Interpolation

def sourceName : Interpolation → String
  | perspective => "perspective"
  | linear => "linear"
  | flat => "flat"

def ofSourceName? (s : String) : Option Interpolation :=
  [perspective, linear, flat].find? (·.sourceName = s)

end Interpolation

/-- Where in a fragment an interpolated value is taken. -/
inductive Sampling where
  | center
  | centroid
  | sample
deriving Repr, DecidableEq, Inhabited

namespace Sampling

/-- The name in source texts. The center is what is meant when nothing is said. -/
def sourceName : Sampling → String
  | center => ""
  | centroid => "centroid"
  | sample => "sample"

def ofSourceName? : String → Option Sampling
  | "center" => some center
  | "centroid" => some centroid
  | "sample" => some sample
  | _ => none

end Sampling

/-- How an argument, a result or a member is tied to what lies outside of an entry point. -/
inductive Binding where
  | builtIn (value : BuiltIn)
  | location (location : Nat) (secondBlendSource : Bool) (interpolation : Option Interpolation)
      (sampling : Option Sampling)
deriving Repr, DecidableEq, Inhabited

inductive ArraySize where
  | constant (count : Nat)
  | dynamic
deriving Repr, DecidableEq, Inhabited

inductive ImageDimension where
  | d1
  | d2
  | d3
  | cube
deriving Repr, DecidableEq, Inhabited

namespace ImageDimension

def sourceName : ImageDimension → String
  | d1 => "1d"
  | d2 => "2d"
  | d3 => "3d"
  | cube => "cube"

end ImageDimension

/-- What is read from an image. -/
inductive ImageClass where
  | sampled (kind : ScalarKind) (multi : Bool)
  | depth (multi : Bool)
deriving Repr, DecidableEq, Inhabited

structure StructMember where
  name : Option String
  type : TypeId
  binding : Option Binding
  offset : Nat
deriving Repr, DecidableEq, Inhabited

/-- What a type is, its name aside. -/
inductive Shape where
  | scalar (scalar : Scalar)
  | vector (size : VectorSize) (scalar : Scalar)
  | matrix (columns rows : VectorSize) (scalar : Scalar)
  | pointer (base : TypeId) (space : AddressSpace)
  /-- A pointer to a vector or a scalar that need not be a type of the module. -/
  | valuePointer (size : Option VectorSize) (scalar : Scalar) (space : AddressSpace)
  | array (base : TypeId) (size : ArraySize) (stride : Nat)
  | struct (members : List StructMember) (span : Nat)
  | image (dimension : ImageDimension) (arrayed : Bool) (cls : ImageClass)
  | sampler (comparison : Bool)
deriving Repr, DecidableEq, Inhabited

namespace Shape

/-- The scalar of a scalar, vector or matrix. -/
def scalar? : Shape → Option Scalar
  | scalar s | vector _ s | matrix _ _ s => some s
  | _ => none

def scalarKind? (s : Shape) : Option ScalarKind := s.scalar?.map (·.kind)

/-- The same shape over another scalar. -/
def withScalar (s : Shape) (new : Scalar) : Shape :=
  match s with
  | scalar _ => scalar new
  | vector n _ => vector n new
  | matrix c r _ => matrix c r new
  | other => other

/-- The space that a pointer points into. -/
def space? : Shape → Option AddressSpace
  | pointer _ space | valuePointer _ _ space => some space
  | _ => none

end Shape

/-- The binding of a value of a shape: where nothing is said, floating point values are interpolated
and whole numbers are not. -/
def Binding.withDefaults (b : Binding) (shape : Shape) : Binding :=
  match b with
  | .location n second none sampling =>
    match shape.scalarKind? with
    | some .float => .location n second (some .perspective) (some .center)
    | some .sint | some .uint => .location n second (some .flat) none
    | _ => .location n second none sampling
  | b => b

structure ShaderType where
  name : Option String
  shape : Shape
deriving Repr, DecidableEq, Inhabited

end ShaderConvert.Ir
