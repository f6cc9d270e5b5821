import ShaderConvert.Spirv.Operand

/-
Imported sets of instructions.

The set of shader arithmetic is known instruction by instruction; a set that carries no meaning
for execution may have any instruction, and all of its operands are ids.
-/
namespace ShaderConvert.Spirv

inductive ExtendedSet where
  /-- Arithmetic for shaders. -/
  | shading
  /-- A set that is known by its name only. -/
  | other
  /-- Annotations that do not affect execution. -/
  | nonSemantic
deriving Repr, DecidableEq, Inhabited

structure ExtendedInstruction where
  name : String
  number : Nat
  operands : Pattern
deriving Repr, DecidableEq, Inhabited

namespace ExtendedSet

/-- Sets that are known by their name only. -/
def otherNames : List String :=
  ["OpenCL.std", "SPV_AMD_shader_explicit_vertex_parameter", "SPV_AMD_shader_trinary_minmax",
    "SPV_AMD_gcn_shader", "SPV_AMD_shader_ballot", "DebugInfo", "OpenCL.DebugInfo.100"]

def ofName? (name : String) : Option ExtendedSet :=
  if name = "GLSL.std.450" then some shading
  else if otherNames.contains name then some other
  else if "NonSemantic.".toList.isPrefixOf name.toList then some nonSemantic
  else none

def shaped (arity : Nat) (entries : List (String × Nat)) : List ExtendedInstruction :=
  entries.map fun (n, k) => ⟨n, k, List.replicate arity .id⟩

def shadingTable : List ExtendedInstruction :=
  shaped 1 [("Round", 1), ("RoundEven", 2), ("Trunc", 3), ("FAbs", 4), ("SAbs", 5), ("FSign", 6),
    ("SSign", 7), ("Floor", 8), ("Ceil", 9), ("Fract", 10), ("Radians", 11), ("Degrees", 12),
    ("Sin", 13), ("Cos", 14), ("Tan", 15), ("Asin", 16), ("Acos", 17), ("Atan", 18), ("Sinh", 19),
    ("Cosh", 20), ("Tanh", 21), ("Asinh", 22), ("Acosh", 23), ("Atanh", 24), ("Exp", 27),
    ("Log", 28), ("Exp2", 29), ("Log2", 30), ("Sqrt", 31), ("InverseSqrt", 32),
    ("Determinant", 33), ("MatrixInverse", 34), ("ModfStruct", 36), ("FrexpStruct", 52),
    ("PackSnorm4x8", 54), ("PackUnorm4x8", 55), ("PackSnorm2x16", 56), ("PackUnorm2x16", 57),
    ("PackHalf2x16", 58), ("PackDouble2x32", 59), ("UnpackSnorm2x16", 60),
    ("UnpackUnorm2x16", 61), ("UnpackHalf2x16", 62), ("UnpackSnorm4x8", 63),
    ("UnpackUnorm4x8", 64), ("UnpackDouble2x32", 65), ("Length", 66), ("Normalize", 69),
    ("FindILsb", 73), ("FindSMsb", 74), ("FindUMsb", 75), ("InterpolateAtCentroid", 76)]
  ++ shaped 2 [("Atan2", 25), ("Pow", 26), ("Modf", 35), ("FMin", 37), ("UMin", 38), ("SMin", 39),
    ("FMax", 40), ("UMax", 41), ("SMax", 42), ("Step", 48), ("Frexp", 51), ("Ldexp", 53),
    ("Distance", 67), ("Cross", 68), ("Reflect", 71), ("InterpolateAtSample", 77),
    ("InterpolateAtOffset", 78), ("NMin", 79), ("NMax", 80)]
  ++ shaped 3 [("FClamp", 43), ("UClamp", 44), ("SClamp", 45), ("FMix", 46), ("IMix", 47),
    ("SmoothStep", 49), ("Fma", 50), ("FaceForward", 70), ("Refract", 72), ("NClamp", 81)]

def table : ExtendedSet → List ExtendedInstruction
  | shading => shadingTable
  | _ => []

def byName? (s : ExtendedSet) (name : String) : Option ExtendedInstruction :=
  s.table.find? (·.name = name)

def byNumber? (s : ExtendedSet) (number : Nat) : Option ExtendedInstruction :=
  s.table.find? (·.number = number)

end ExtendedSet

end ShaderConvert.Spirv
