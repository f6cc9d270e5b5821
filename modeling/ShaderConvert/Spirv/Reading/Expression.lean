import ShaderConvert.Number.Power
import ShaderConvert.Spirv.Reading.Draft

/-
Instructions that compute a value.

Whole numbers have a sign in the module that is read, while the instructions of the binary decide for
themselves how they take their operands: operands of the other sign are reinterpreted.
-/
namespace ShaderConvert.Spirv.Reading

open Ir

/-- An expression in messages. -/
def expressionTitle : Expression → String
  | .constant i => s!"Constant([{i}])"
  | .override i => s!"Override([{i}])"
  | .zeroValue t => s!"ZeroValue([{t}])"
  | .functionArgument i => s!"FunctionArgument({i})"
  | .globalVariable i => s!"GlobalVariable([{i}])"
  | .localVariable i => s!"LocalVariable([{i}])"
  | .callResult f => s!"CallResult([{f}])"
  | .load p => s!"Load \x7b pointer: [{p}] \x7d"
  | .accessIndex b i => s!"AccessIndex \x7b base: [{b}], index: {i} \x7d"
  | .access b i => s!"Access \x7b base: [{b}], index: [{i}] \x7d"
  | .unary op e => "Unary \x7b op: " ++ op.title ++ s!", expr: [{e}] \x7d"
  | .binary op l r => "Binary \x7b op: " ++ op.title ++ s!", left: [{l}], right: [{r}] \x7d"
  | _ => ""

/-- Appends the value of an instruction. -/
def defineAs (id typeId : Nat) (e : Expression) (h : Head) : Drafting Unit := do
  define id typeId (← append e h.span)

def readUndefined (h : Head) : Drafting Unit := do
  h.expect 3
  let typeId ← next
  let id ← next
  let t ← findType typeId
  defineAs id typeId (.zeroValue t.type) h

/-- A local variable. It stands for itself and is not evaluated. -/
def readLocal (h : Head) : Drafting Unit := do
  h.expectAtLeast 4
  flush
  let typeId ← next
  let id ← next
  discard next
  let init ←
    if h.count > 4 then do
      h.expect 5
      let c ← findConstant (← next)
      some <$> append c.place.expression h.span
    else pure none
  let d ← takeDecorations id
  let t ← findType typeId
  let type := match ← shapeOf t.type with
    | .pointer base _ => base
    | _ => t.type
  let index ← addLocal ⟨d.name, type, init⟩ h.span
  defineAs id typeId (.localVariable index) h
  skipPending

/-- A value that depends on where the block was reached from is kept in a local variable. -/
def readPhi (h : Head) : Drafting Unit := do
  h.expectAtLeast 3
  flush
  let typeId ← next
  let id ← next
  let t ← findType typeId
  let index ← addLocal ⟨some s!"phi_{id}", t.type, none⟩ h.span
  let pointer ← append (.localVariable index) h.span
  let sources ← (List.range ((h.count - 3) / 2)).mapM fun _ => do
    let value ← next
    let label ← next
    pure (value, label)
  modify fun d => { d with phis := d.phis ++ [⟨index, sources⟩] }
  skipPending
  defineAs id typeId (.load pointer) h

/-- The index that a constant is. -/
def constantIndex (k : Nat) : Drafting Nat := do
  let m := (← reader).module
  let literal := match m.globalExpressions.get (m.constants.get k).init with
    | .literal l => some l
    | .zeroValue t => (m.shapeOf t).scalar?.bind Literal.zero?
    | _ => none
  match literal with
  | some (.u32 n) => return n
  | some (.i32 (.ofNat n)) => return n
  | _ => throw (.access (expressionTitle (.constant k)))

/-- A pointer on the way into a value. -/
structure Access where
  base : ExprId
  typeId : Nat
  turned : Option Turned

def baseOf (t : KnownType) (typeId : Nat) : Drafting Nat :=
  match t.base with
  | some b => return b
  | none => throw (.invalid .accessType typeId)

def loadTurned (pointer : ExprId) (h : Head) : Drafting Turned := do
  let loaded ← append (.load pointer) h.span
  return .loaded (← append (.math .transpose [loaded]) h.span)

/-- One index further into a value. Members of structs are found by constants only. -/
def accessStep (h : Head) (a : Access) : Drafting Access := do
  let id ← next
  let v ← findValue id
  let index ← use id v
  let x := (← get).function.expressions.get v.expr
  let known ← match x with
    | .constant k => some <$> constantIndex k
    | _ => pure none
  let t ← findType a.typeId
  let part : Expression := match known with
    | some i => .accessIndex a.base i
    | none => .access a.base index
  match ← shapeOf t.type, known with
  | .struct _ _, none => throw (.access (expressionTitle x))
  | .struct members _, some i =>
    match (← reader).members.lookup (t.type, i) with
    | none => throw (.invalid .accessType a.typeId)
    | some member => do
      let base ← append part h.span
      match members[i]?.bind (·.binding) with
      | some (.builtIn b) =>
        liftM (m := Read) (modify fun r => { r with reached := b :: r.reached })
      | _ => pure ()
      if member.rowMajor then
        let inner ← findType member.typeId
        match ← shapeOf inner.type with
        | .matrix _ _ _ => return ⟨base, member.typeId, some (← loadTurned base h)⟩
        | _ => return ⟨base, member.typeId, some .pending⟩
      else return ⟨base, member.typeId, none⟩
  | .matrix _ _ _, _ => do
    let turned ← match a.turned, known with
      | some (.loaded e), some i => do
        pure (some (Turned.loaded (← append (.accessIndex e i) h.span)))
      | some (.loaded _), none => throw (.access (expressionTitle x))
      | _, _ => pure none
    let base ← append part h.span
    return ⟨base, ← baseOf t a.typeId, turned⟩
  | _, _ => do
    let base ← append (.access a.base index) h.span
    let turned ← match a.turned with
      | some .pending => some <$> loadTurned base h
      | some (.loaded e) => do
        pure (some (Turned.loaded (← append (.access e index) h.span)))
      | none => pure none
    return ⟨base, ← baseOf t a.typeId, turned⟩

def readAccessChain (h : Head) : Drafting Unit := do
  h.expectAtLeast 4
  let typeId ← next
  let id ← next
  let baseId ← next
  let v ← findValue baseId
  let t ← findType v.typeId
  let target ← baseOf t v.typeId
  let start : Access := ⟨← use baseId v, target, (← get).turned.lookup baseId⟩
  let a ← (List.range (h.count - 4)).foldlM (fun a _ => accessStep h a) start
  match a.turned with
  | some x => modify fun d => { d with turned := (id, x) :: d.turned }
  | none => pure ()
  define id typeId a.base

/-- The id of the type of a part found by a number. -/
def partTypeId (typeId index : Nat) : Drafting Nat := do
  let t ← findType typeId
  match ← shapeOf t.type with
  | .struct _ _ =>
    match (← reader).members.lookup (t.type, index) with
    | some member => return member.typeId
    | none => throw (.invalid .accessIndex index)
  | .array _ _ _ | .vector _ _ | .matrix _ _ _ => baseOf t typeId
  | _ => throw (.unsupportedType t.type)

def readExtract (h : Head) : Drafting Unit := do
  h.expectAtLeast 4
  let typeId ← next
  let id ← next
  let baseId ← next
  let v ← findValue baseId
  let start := (← use baseId v, v.typeId)
  let (e, _) ← (List.range (h.count - 4)).foldlM (fun (e, t) _ => do
    let index ← next
    let inner ← partTypeId t index
    return (← append (.accessIndex e index) h.span, inner)) start
  define id typeId e

/-- A vector of equal components is written as one. -/
def readConstruct (h : Head) : Drafting Unit := do
  h.expectAtLeast 3
  let typeId ← next
  let id ← next
  let components ← (List.range (h.count - 3)).mapM fun _ => nextOperand
  let t ← findType typeId
  match components with
  | [] => throw (.shortList 0)
  | first :: rest =>
    match ← shapeOf t.type with
    | .vector n _ =>
      if components.length = n.count && rest.all (· == first) then
        defineAs id typeId (.splat n first) h
      else defineAs id typeId (.compose t.type components) h
    | _ => defineAs id typeId (.compose t.type components) h

def readLoad (h : Head) : Drafting Unit := do
  h.expectAtLeast 4
  let typeId ← next
  let id ← next
  let pointerId ← next
  if h.count ≠ 4 then
    h.expect 5
    discard next
  let v ← findValue pointerId
  let pointer ← use pointerId v
  let t ← findType v.typeId
  match ← shapeOf t.type with
  -- images and samplers are never behind a pointer
  | .image _ _ _ | .sampler _ => define id typeId pointer
  | _ =>
    match (← get).turned.lookup pointerId with
    | some (.loaded e) => define id typeId e
    | _ => defineAs id typeId (.load pointer) h

def readStore (h : Head) : Drafting Unit := do
  h.expectAtLeast 3
  let pointerId ← next
  let valueId ← next
  if h.count ≠ 3 then
    h.expect 4
    discard next
  let pointer ← operand pointerId
  let value ← operand valueId
  flush
  pushStatement (.store pointer value) h.span

def readCopy (h : Head) : Drafting Unit := do
  h.expect 4
  let typeId ← next
  let id ← next
  define id typeId (← nextOperand)

def readUnary (op : UnaryOperator) (h : Head) : Drafting Unit := do
  h.expect 4
  let typeId ← next
  let id ← next
  let e ← nextOperand
  defineAs id typeId (.unary op e) h

/-- The kind of the numbers of a type. -/
def kindOf (typeId : Nat) : Drafting ScalarKind := do
  let t ← findType typeId
  match (← shapeOf t.type).scalarKind? with
  | some k => return k
  | none => throw .noValue

/-- An expression with its bits taken as another kind of number. -/
def reinterpret (e : ExprId) (kind : ScalarKind) (h : Head) : Drafting ExprId :=
  append (.convert e kind none) h.span

/-- The operand takes the type of the result. -/
def readUnaryAs (op : UnaryOperator) (h : Head) : Drafting Unit := do
  h.expect 4
  let typeId ← next
  let id ← next
  let valueId ← next
  let v ← findValue valueId
  let e ← use valueId v
  let kind ← kindOf typeId
  let e ← if v.typeId = typeId then pure e else reinterpret e kind h
  defineAs id typeId (.unary op e) h

def readBinary (op : BinaryOperator) (h : Head) : Drafting Unit := do
  h.expect 5
  let typeId ← next
  let id ← next
  let leftId ← next
  let rightId ← next
  let left ← operand leftId
  let right ← operand rightId
  defineAs id typeId (.binary op left right) h

/-- Both operands take the type of the result, or that of the first operand. -/
def readBinaryAs (op : BinaryOperator) (byResult : Bool) (h : Head) : Drafting Unit := do
  h.expect 5
  let typeId ← next
  let id ← next
  let leftId ← next
  let rightId ← next
  let l ← findValue leftId
  let left ← use leftId l
  let r ← findValue rightId
  let right ← use rightId r
  let expected := if byResult then typeId else l.typeId
  let kind ← kindOf expected
  let left ← if l.typeId = expected then pure left else reinterpret left kind h
  let right ← if r.typeId = expected then pure right else reinterpret right kind h
  defineAs id typeId (.binary op left right) h

/-- Both operands are taken as numbers of a kind. -/
def readComparison (op : BinaryOperator) (kind : ScalarKind) (h : Head) : Drafting Unit := do
  h.expect 5
  let typeId ← next
  let id ← next
  let leftId ← next
  let rightId ← next
  let l ← findValue leftId
  let left ← use leftId l
  let leftKind ← kindOf l.typeId
  let r ← findValue rightId
  let right ← use rightId r
  let rightKind ← kindOf r.typeId
  let left ← if leftKind = kind then pure left else reinterpret left kind h
  let right ← if rightKind = kind then pure right else reinterpret right kind h
  defineAs id typeId (.binary op left right) h

/-- The number of places to shift by has no sign. -/
def readShift (op : BinaryOperator) (h : Head) : Drafting Unit := do
  h.expect 5
  let typeId ← next
  let id ← next
  let leftId ← next
  let rightId ← next
  let left ← operand leftId
  let right ← operand rightId
  let places ← reinterpret right .uint h
  defineAs id typeId (.binary op left places) h

def readSelect (h : Head) : Drafting Unit := do
  h.expect 6
  let typeId ← next
  let id ← next
  let conditionId ← next
  let acceptId ← next
  let rejectId ← next
  let condition ← operand conditionId
  let accept ← operand acceptId
  let reject ← operand rejectId
  defineAs id typeId (.select condition accept reject) h

/-- The size of the vectors of an id of a type. -/
def vectorCount (typeId : Nat) : Drafting Nat := do
  let t ← findType typeId
  match ← shapeOf t.type with
  | .vector n _ => return n.count
  | _ => throw (.invalid .innerType typeId)

/-- A component that may be anything is the first one. -/
def readShuffle (h : Head) : Drafting Unit := do
  h.expectAtLeast 5
  let typeId ← next
  let id ← next
  let firstId ← next
  let secondId ← next
  let v₁ ← findValue firstId
  discard (findType v₁.typeId)
  let first ← use firstId v₁
  let n₁ ← vectorCount v₁.typeId
  let v₂ ← findValue secondId
  discard (findType v₂.typeId)
  let second ← use secondId v₂
  let n₂ ← vectorCount v₂.typeId
  let indices := (← nextMany (h.count - 5)).map fun i => if i = twoTo 32 - 1 then 0 else i
  if indices.all (· < n₁) then
    let size := (VectorSize.ofCount? indices.length).getD .four
    let letters := indices.map fun i => (SwizzleComponent.ofIndex? i).getD .w
    let pattern := (letters ++ List.replicate 4 SwizzleComponent.x).take size.count
    defineAs id typeId (.swizzle size first pattern) h
  else
    let components ← indices.mapM fun i => do
      if i < n₁ then append (.accessIndex first i) h.span
      else if i < n₁ + n₂ then append (.accessIndex second (i - n₁)) h.span
      else throw (.invalid .accessIndex i)
    let t ← findType typeId
    defineAs id typeId (.compose t.type components) h

/-- The result has the kind that its type says; the bits are kept, or the value is. -/
def readConversion (h : Head) (keepsBits : Bool) : Drafting Unit := do
  h.expect 4
  let typeId ← next
  let id ← next
  let valueId ← next
  let v ← findValue valueId
  let t ← findType typeId
  match (← shapeOf t.type).scalar? with
  | none => throw (.invalidType .conversion t.type)
  | some s =>
    let e ← use valueId v
    let width := if s.kind = .bool then some 1 else if keepsBits then none else some s.width
    defineAs id typeId (.convert e s.kind width) h

def readRelational (f : RelationalFunction) (h : Head) : Drafting Unit := do
  h.expect 4
  let typeId ← next
  let id ← next
  let e ← nextOperand
  defineAs id typeId (.relational f e) h

def readDerivative (axis : DerivativeAxis) (control : DerivativeControl) (h : Head) :
    Drafting Unit := do
  h.expect 4
  let typeId ← next
  let id ← next
  let e ← nextOperand
  defineAs id typeId (.derivative axis control e) h

/-- A function of the imported set. -/
def mathOf? : Nat → Option MathFunction
  | 1 | 2 => some .round | 3 => some .trunc | 4 | 5 => some .abs | 6 | 7 => some .sign
  | 8 => some .floor | 9 => some .ceil | 10 => some .fract | 11 => some .radians
  | 12 => some .degrees | 13 => some .sin | 14 => some .cos | 15 => some .tan | 16 => some .asin
  | 17 => some .acos | 18 => some .atan | 19 => some .sinh | 20 => some .cosh | 21 => some .tanh
  | 22 => some .asinh | 23 => some .acosh | 24 => some .atanh | 25 => some .atan2
  | 26 => some .pow | 27 => some .exp | 28 => some .log | 29 => some .exp2 | 30 => some .log2
  | 31 => some .sqrt | 32 => some .inverseSqrt | 33 => some .determinant | 34 => some .inverse
  | 37 | 38 | 39 | 79 => some .min | 40 | 41 | 42 | 80 => some .max
  | 43 | 44 | 45 | 81 => some .clamp | 46 => some .mix | 48 => some .step
  | 49 => some .smoothStep | 50 => some .fma | 53 => some .ldexp | 66 => some .length
  | 67 => some .distance | 68 => some .cross | 69 => some .normalize | 70 => some .faceForward
  | 71 => some .reflect | 72 => some .refract | 73 => some .firstTrailingBit
  | 74 | 75 => some .firstLeadingBit | _ => none

def readExtended (h : Head) : Drafting Unit := do
  h.expectAtLeast 5
  let typeId ← next
  let id ← next
  let set ← next
  if some set ≠ (← reader).extendedSet then throw (.unsupported .extendedSet set)
  let number ← next
  match mathOf? number with
  | none => throw (.unsupported .extendedInstruction number)
  | some f =>
    h.expect (5 + f.argumentCount)
    let arguments ← (List.range f.argumentCount).mapM fun _ => nextOperand
    defineAs id typeId (.math f arguments) h

/-- A function with an instruction of its own. -/
def readMath (f : MathFunction) (h : Head) : Drafting Unit := do
  h.expect (3 + f.argumentCount)
  let typeId ← next
  let id ← next
  let arguments ← (List.range f.argumentCount).mapM fun _ => nextOperand
  defineAs id typeId (.math f arguments) h

/-- The length of the array that is a member of a struct. -/
def readArrayLength (h : Head) : Drafting Unit := do
  h.expect 5
  let typeId ← next
  let id ← next
  let structId ← next
  let member ← next
  let base ← operand structId
  let array ← append (.accessIndex base member) h.span
  defineAs id typeId (.arrayLength array) h

end ShaderConvert.Spirv.Reading
