/-
Scalars of shader programs: kinds and widths.

Numbers without a suffix are abstract: they have a kind of their own until their use settles a
concrete one.
-/
namespace ShaderConvert.Ir

inductive ScalarKind where
  | sint
  | uint
  | float
  | bool
  | abstractInt
  | abstractFloat
deriving Repr, DecidableEq, Inhabited

namespace ScalarKind

def isAbstract : ScalarKind → Bool
  | abstractInt | abstractFloat => true
  | _ => false

/-- May values of the kind be added and compared by size? -/
def isNumeric : ScalarKind → Bool
  | sint | uint | float | abstractInt | abstractFloat => true
  | bool => false

def isInteger : ScalarKind → Bool
  | sint | uint => true
  | _ => false

/-- The name in messages. -/
def title : ScalarKind → String
  | sint => "Sint"
  | uint => "Uint"
  | float => "Float"
  | bool => "Bool"
  | abstractInt => "AbstractInt"
  | abstractFloat => "AbstractFloat"

end ScalarKind

/-- A kind and a width in bytes. -/
structure Scalar where
  kind : ScalarKind
  width : Nat
deriving Repr, DecidableEq, Inhabited

namespace Scalar

def i32 : Scalar := ⟨.sint, 4⟩
def u32 : Scalar := ⟨.uint, 4⟩
def f32 : Scalar := ⟨.float, 4⟩
def i64 : Scalar := ⟨.sint, 8⟩
def u64 : Scalar := ⟨.uint, 8⟩
def f64 : Scalar := ⟨.float, 8⟩
def bool : Scalar := ⟨.bool, 1⟩
def abstractInt : Scalar := ⟨.abstractInt, 8⟩
def abstractFloat : Scalar := ⟨.abstractFloat, 8⟩

def isAbstract (s : Scalar) : Bool := s.kind.isAbstract

/-- The name in source texts, with a braced name for what has none. -/
def sourceName (s : Scalar) : String :=
  match s.kind with
  | .sint => s!"i{8 * s.width}"
  | .uint => s!"u{8 * s.width}"
  | .float => s!"f{8 * s.width}"
  | .bool => "bool"
  | .abstractInt => "\x7bAbstractInt\x7d"
  | .abstractFloat => "\x7bAbstractFloat\x7d"

/-- The concrete scalar that an abstract one becomes when nothing asks for another. -/
def concretize (s : Scalar) : Scalar :=
  match s.kind with
  | .abstractInt => i32
  | .abstractFloat => f32
  | _ => s

/-- Can a value of scalar `s` be converted to `goal` without being asked for? -/
def convertsTo (s goal : Scalar) : Bool :=
  s == goal || match s.kind with
    | .abstractFloat => goal.kind == .float
    | .abstractInt => goal.kind != .bool
    | _ => false

/-- The scalar that values of both convert to. -/
def join (a b : Scalar) : Option Scalar :=
  if a.convertsTo b then some b else if b.convertsTo a then some a else none

end Scalar

/-- How many components a vector has. -/
inductive VectorSize where
  | two
  | three
  | four
deriving Repr, DecidableEq, Inhabited

namespace VectorSize

def count : VectorSize → Nat
  | two => 2
  | three => 3
  | four => 4

def ofCount? : Nat → Option VectorSize
  | 2 => some two
  | 3 => some three
  | 4 => some four
  | _ => none

def title : VectorSize → String
  | two => "Bi"
  | three => "Tri"
  | four => "Quad"

end VectorSize

end ShaderConvert.Ir
