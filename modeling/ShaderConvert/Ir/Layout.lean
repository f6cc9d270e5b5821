import ShaderConvert.Ir.Module
import ShaderConvert.Number.Power

/-
Sizes and alignments of types in memory.

`Layout.ofShape` follows the types that a shape refers to, which come before it, so the layouts of
all types of a module are found in one pass over them (`layouts`). A scalar whose width is no power
of two has none.
-/
namespace ShaderConvert.Ir

structure Layout where
  size : Nat
  alignment : Nat
deriving Repr, DecidableEq, Inhabited

/-- The first multiple of an alignment that is not below. -/
def roundUp (alignment n : Nat) : Nat := (n + alignment - 1) / alignment * alignment

/-- The distance of elements in an array. -/
def Layout.stride (l : Layout) : Nat := roundUp l.alignment l.size

/-- A type that has no layout. -/
inductive LayoutFault where
  | missingElement (base : TypeId)
  | missingMember (index : Nat) (type : TypeId)
  | widthNotPowerOfTwo
deriving Repr, DecidableEq, Inhabited

namespace LayoutFault

def message : LayoutFault → String
  | missingElement b => s!"Array element type [{b}] doesn't exist"
  | missingMember i t => s!"Struct member[{i}] type [{t}] doesn't exist"
  | widthNotPowerOfTwo => "Type width must be a power of two"

/-- The fault as a value, as it is shown when the program gives up. -/
def debugName : LayoutFault → String
  | missingElement b => s!"InvalidArrayElementType([{b}])"
  | missingMember i t => s!"InvalidStructMemberType({i}, [{t}])"
  | widthNotPowerOfTwo => "NonPowerOfTwoWidth"

end LayoutFault

def isPowerOfTwo (n : Nat) : Bool := n != 0 && twoTo (Nat.log2 n) == n

namespace VectorSize

/-- Three components are aligned like four. -/
def alignment : VectorSize → Nat
  | two => 2
  | three => 4
  | four => 4

end VectorSize

/-- The bytes that a pointer is counted with. -/
def pointerSpan : Nat := 4

namespace Shape

/-- The size of a value; that of an array without a count is the size of one element. -/
def size : Shape → Nat
  | scalar s => s.width
  | vector n s => n.count * s.width
  | matrix c r s => r.alignment * s.width * c.count
  | pointer _ _ | valuePointer _ _ _ => pointerSpan
  | array _ (.constant n) stride => n * stride
  | array _ .dynamic stride => stride
  | struct _ span => span
  | image _ _ _ | sampler _ => 0

end Shape

namespace Layout

def ofShape (known : Array Layout) (shape : Shape) : Except LayoutFault Layout :=
  let widthOf (s : Scalar) : Except LayoutFault Nat :=
    if isPowerOfTwo s.width then .ok s.width else .error .widthNotPowerOfTwo
  match shape with
  | .scalar s => do return ⟨shape.size, ← widthOf s⟩
  | .vector n s => do return ⟨shape.size, n.alignment * (← widthOf s)⟩
  | .matrix _ r s => do return ⟨shape.size, r.alignment * (← widthOf s)⟩
  | .pointer _ _ | .valuePointer _ _ _ => .ok ⟨shape.size, 1⟩
  | .array base _ _ =>
    match known[base]? with
    | some l => .ok ⟨shape.size, l.alignment⟩
    | none => .error (.missingElement base)
  | .struct members _ => do
    let alignment ← members.zipIdx.foldlM (fun a (m, i) =>
      match known[m.type]? with
      | some l => .ok (max a l.alignment)
      | none => .error (.missingMember i m.type)) 1
    return ⟨shape.size, alignment⟩
  | .image _ _ _ | .sampler _ => .ok ⟨shape.size, 1⟩

end Layout

/-- The layouts of all types, or the first type that has none and why. -/
def Module.layouts (m : Module) : Except (TypeId × LayoutFault) (Array Layout) :=
  m.types.entries.foldlM (fun known (i, t) =>
    match Layout.ofShape known t.shape with
    | .ok l => .ok (known.push l)
    | .error f => .error (i, f)) #[]

end ShaderConvert.Ir
