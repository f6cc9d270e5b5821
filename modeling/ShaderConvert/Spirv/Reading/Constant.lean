import ShaderConvert.Number.Power
import ShaderConvert.Spirv.Reading.Type

/-
Constants of a module. One that has a number of its own can be set from outside.
-/
namespace ShaderConvert.Spirv.Reading

open Ir

/-- The value of `low` and `high` as bits of a number with a sign. -/
def signedOf (width bits : Nat) : Int :=
  if bits < twoTo (width - 1) then bits else (bits : Int) - (twoTo width : Int)

def knowConstant (id typeId : Nat) (type : TypeId) (init : ExprId) (h : Head) : Read Unit := do
  let d ← takeDecorations id
  match d.overrideId with
  | some n =>
    if n ≥ 65536 then throw (.overrideId n)
    modify fun r =>
      { r with
        constants := (id, ⟨.override r.module.overrides.size, typeId⟩) :: r.constants
        module := { r.module with
          overrides := r.module.overrides.push ⟨d.name, some n, type, some init⟩ h.span } }
  | none =>
    modify fun r =>
      { r with
        constants := (id, ⟨.constant r.module.constants.size, typeId⟩) :: r.constants
        module := { r.module with
          constants := r.module.constants.push ⟨d.name, type, init⟩ h.span } }

/-- The literal of a scalar, from one word or two. -/
def literalOf (h : Head) (s : Scalar) (type : TypeId) : Read Literal := do
  let numeric := s.kind = .uint || s.kind = .sint || s.kind = .float
  if !numeric then throw (.unsupportedType type)
  let low ← next
  let bits ← match s.width with
    | 4 => pure low
    | 8 => do
      h.expect 5
      let high ← next
      pure (high * twoTo 32 + low)
    | w => throw (.invalid .typeWidth w)
  return match s.kind, s.width with
    | .uint, 4 => .u32 bits
    | .uint, _ => .u64 bits
    | .sint, 4 => .i32 (signedOf 32 bits)
    | .sint, _ => .i64 (signedOf 64 bits)
    | _, 4 => .f32 bits
    | _, _ => .f64 bits

def readConstant (h : Head) : Read Unit := do
  enter .type h
  h.expectAtLeast 4
  let typeId ← next
  let id ← next
  let t ← findType typeId
  match ← shapeOf t.type with
  | .scalar s =>
    let l ← literalOf h s t.type
    let init ← pushGlobalExpression (.literal l) h.span
    knowConstant id typeId t.type init h
  | _ => throw (.unsupportedType t.type)

def readComposite (h : Head) : Read Unit := do
  enter .type h
  h.expectAtLeast 3
  let typeId ← next
  let id ← next
  let t ← findType typeId
  let components ← (List.range (h.count - 3)).mapM fun _ => do
    let c ← findConstant (← next)
    pushGlobalExpression c.place.expression h.span
  let init ← pushGlobalExpression (.compose t.type components) h.span
  knowConstant id typeId t.type init h

/-- A constant whose value takes no operands. -/
def readPlainConstant (h : Head) (value : TypeId → Expression) : Read Unit := do
  enter .type h
  h.expect 3
  let typeId ← next
  let id ← next
  let t ← findType typeId
  let init ← pushGlobalExpression (value t.type) h.span
  knowConstant id typeId t.type init h

def readNull (h : Head) : Read Unit := readPlainConstant h .zeroValue

def readTruth (h : Head) (b : Bool) : Read Unit := readPlainConstant h fun _ => .literal (.bool b)

end ShaderConvert.Spirv.Reading
