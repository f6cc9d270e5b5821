import ShaderConvert.Spirv.Enumerants

/-
Which capabilities a named value needs: one of those listed for it. Declaring a capability declares
those that it builds on as well.
-/
namespace ShaderConvert.Spirv

/-- The capabilities that a capability builds on, directly. -/
def Capability.builtOn (c : Nat) : List Nat :=
  match c with
  | 1 => [0]
  | 2 | 3 | 21 | 25 | 27 | 28 | 29 | 30 | 31 | 32 | 33 | 35 | 37 | 40 | 41 | 42 | 45 | 48 | 49 | 50
  | 51 | 52 | 53 | 55 | 56 | 69 | 70 | 71 => [1]
  | 7 | 8 | 13 | 17 | 19 | 20 | 38 | 59 => [6]
  | 12 => [11]
  | 14 | 15 => [13]
  | 23 => [3]
  | 24 | 54 | 57 => [2]
  | 34 => [45]
  | 36 => [37]
  | 44 => [43]
  | 47 => [46]
  | 58 => [19]
  | 60 => [17]
  | 62 | 63 | 64 | 65 | 66 | 67 | 68 => [61]
  | _ => []

/-- A capability with everything below it; the tables are three levels deep. -/
def Capability.closure : Nat → Nat → List Nat
  | 0, c => [c]
  | depth + 1, c => c :: (Capability.builtOn c).flatMap (Capability.closure depth)

namespace Family

/-- One of these capabilities must be declared for the value; none is needed if the list is
empty. -/
def required (f : Family) (value : Nat) : List Nat :=
  match f with
  | executionModel =>
    match value with
    | 0 | 4 | 5 => [1]
    | 1 | 2 => [3]
    | 3 => [2]
    | 6 => [6]
    | _ => []
  | addressingModel => if value = 1 ∨ value = 2 then [4] else if value = 5348 then [5347] else []
  | memoryModel => if value ≤ 1 then [1] else if value = 2 then [6] else [5345]
  | executionMode =>
    match value with
    | 6 | 7 | 8 | 9 | 12 | 14 | 15 | 16 => [1]
    | 0 | 19 | 20 | 21 | 23 | 27 | 28 | 29 => [2]
    | 1 | 2 | 3 | 4 | 5 | 10 | 24 | 25 => [3]
    | 11 => [53]
    | 18 | 30 | 31 | 33 | 34 | 39 => [6]
    | _ => []
  | storageClass =>
    match value with
    | 2 | 3 | 9 | 12 => [1]
    | 6 => [1, 5617]
    | 8 => [38]
    | 10 => [21]
    | _ => []
  | decoration =>
    match value with
    | 0 | 2 | 3 | 6 | 8 | 9 | 13 | 14 | 16 | 18 | 30 | 31 | 32 | 33 | 34 | 35 | 42 => [1]
    | 4 | 5 | 7 => [0]
    | 1 => [1, 6]
    | 10 | 22 | 28 | 38 | 39 | 40 | 44 => [6]
    | 15 => [3]
    | 17 => [35]
    | 29 => [54]
    | 36 | 37 => [53]
    | 41 => [5]
    | 43 => [40]
    | 45 => [4]
    | _ => []
  | builtIn =>
    match value with
    | 0 | 5 | 6 | 15 | 16 | 17 | 20 | 22 | 23 | 42 | 43 => [1]
    | 18 | 19 => [35]
    | 7 => [2, 3, 5340, 4479, 5266, 5283]
    | _ => []
  | accessQualifier => [6]
  | linkageType => [5]
  | _ => []

end Family

namespace Opcode

/-- One of these capabilities must be declared for an instruction of that number. -/
def required (number : Nat) : List Nat :=
  match number with
  | 24 | 84 => [0]
  | 29 | 68 | 87 | 89 | 91 | 93 | 207 | 208 | 209 | 252 => [1]
  | _ => []

end Opcode

end ShaderConvert.Spirv
