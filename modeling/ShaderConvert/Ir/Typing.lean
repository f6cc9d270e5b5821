import ShaderConvert.Ir.Layout

/-
Types of expressions.

The type of an expression follows from the types of its operands (`typeOfExpression`). It is either
a type of the module or a shape that the module may not have (`Resolved`).
-/
namespace ShaderConvert.Ir

/-- The type of an expression. -/
inductive Resolved where
  | named (type : TypeId)
  | shape (shape : Shape)
deriving Repr, DecidableEq, Inhabited

/-- The shape of a resolved type. -/
def Resolved.shapeIn (types : Arena ShaderType) : Resolved → Shape
  | named t => (types.get t).shape
  | shape s => s

inductive TypingFault where
  | indexOutOfBounds (expr : ExprId) (index : Nat)
  | invalidAccess (expr : ExprId) (indexed : Bool)
  | invalidSubAccess (type : TypeId) (indexed : Bool)
  | invalidScalar (expr : ExprId)
  | invalidVector (expr : ExprId)
  | invalidPointer (expr : ExprId)
  | invalidImage (expr : ExprId)
  | functionReturnsVoid
  | incompatibleOperands (what : String)
  | argumentNotFound (index : Nat)
deriving Repr, DecidableEq, Inhabited

namespace TypingFault

def message : TypingFault → String
  | indexOutOfBounds e i => s!"Index {i} is out of bounds for expression [{e}]"
  | invalidAccess e b => s!"Invalid access into expression [{e}], indexed: " ++
    (if b then "true" else "false")
  | invalidSubAccess t b => s!"Invalid sub-access into type [{t}], indexed: " ++
    (if b then "true" else "false")
  | invalidScalar e => s!"Invalid scalar [{e}]"
  | invalidVector e => s!"Invalid vector [{e}]"
  | invalidPointer e => s!"Invalid pointer [{e}]"
  | invalidImage e => s!"Invalid image [{e}]"
  | functionReturnsVoid => "Function without return type"
  | incompatibleOperands what => "Incompatible operands: " ++ what
  | argumentNotFound i => s!"Function argument {i} doesn't exist"

end TypingFault

/-- A scalar in messages. -/
def Scalar.debugText (s : Scalar) : String :=
  "Scalar \x7b kind: " ++ s.kind.title ++ s!", width: {s.width} \x7d"

/-- A shape in messages. -/
def Shape.debugText : Shape → String
  | scalar s => "Scalar(" ++ s.debugText ++ ")"
  | vector n s => "Vector \x7b size: " ++ n.title ++ ", scalar: " ++ s.debugText ++ " \x7d"
  | matrix c r s => "Matrix \x7b columns: " ++ c.title ++ ", rows: " ++ r.title ++ ", scalar: "
    ++ s.debugText ++ " \x7d"
  | pointer base _ => s!"Pointer \x7b base: [{base}] \x7d"
  | valuePointer _ s _ => "ValuePointer \x7b scalar: " ++ s.debugText ++ " \x7d"
  | array base _ stride => s!"Array \x7b base: [{base}], stride: {stride} \x7d"
  | struct _ span => s!"Struct \x7b span: {span} \x7d"
  | image _ _ _ => "Image"
  | sampler b => "Sampler \x7b comparison: " ++ (if b then "true" else "false") ++ " \x7d"

/-- What the type of an expression depends on besides its operands. -/
structure TypingContext where
  types : Arena ShaderType
  constants : Arena Constant
  overrides : Arena Override
  globals : Arena GlobalVariable
  locals : Arena LocalVariable
  functions : Arena Function
  arguments : List FunctionArgument
deriving Inhabited

namespace TypingContext

/-- The context of expressions outside of functions. -/
def ofModule (m : Module) : TypingContext :=
  ⟨m.types, m.constants, m.overrides, m.globals, .empty, m.functions, []⟩

def ofFunction (m : Module) (f : Function) : TypingContext :=
  ⟨m.types, m.constants, m.overrides, m.globals, f.locals, m.functions, f.arguments⟩

end TypingContext

/-- The type of a part found by an index that is not known beforehand. -/
def typeOfAccess (types : Arena ShaderType) (base : ExprId) : Shape → Except TypingFault Resolved
  | .array elem _ _ => .ok (.named elem)
  | .matrix _ rows s => .ok (.shape (.vector rows s))
  | .vector _ s => .ok (.shape (.scalar s))
  | .valuePointer (some _) s space => .ok (.shape (.valuePointer none s space))
  | .pointer target space =>
    match (types.get target).shape with
    | .array elem _ _ => .ok (.shape (.pointer elem space))
    | .vector _ s => .ok (.shape (.valuePointer none s space))
    | .matrix _ rows s => .ok (.shape (.valuePointer (some rows) s space))
    | _ => .error (.invalidSubAccess target true)
  | _ => .error (.invalidAccess base true)

/-- The type of a part found by a known index. -/
def typeOfAccessIndex (types : Arena ShaderType) (base : ExprId) (index : Nat) :
    Shape → Except TypingFault Resolved
  | .vector n s =>
    if index ≥ n.count then .error (.indexOutOfBounds base index) else .ok (.shape (.scalar s))
  | .matrix c r s =>
    if index ≥ c.count then .error (.indexOutOfBounds base index) else .ok (.shape (.vector r s))
  | .array elem _ _ => .ok (.named elem)
  | .struct members _ =>
    match members[index]? with
    | some m => .ok (.named m.type)
    | none => .error (.indexOutOfBounds base index)
  | .valuePointer (some n) s space =>
    if index ≥ n.count then .error (.indexOutOfBounds base index)
    else .ok (.shape (.valuePointer none s space))
  | .pointer target space =>
    match (types.get target).shape with
    | .array elem _ _ => .ok (.shape (.pointer elem space))
    | .vector n s =>
      if index ≥ n.count then .error (.indexOutOfBounds base index)
      else .ok (.shape (.valuePointer none s space))
    | .matrix c r s =>
      if index ≥ c.count then .error (.indexOutOfBounds base index)
      else .ok (.shape (.valuePointer (some r) s space))
    | .struct members _ =>
      match members[index]? with
      | some m => .ok (.shape (.pointer m.type space))
      | none => .error (.indexOutOfBounds base index)
    | _ => .error (.invalidSubAccess target false)
  | _ => .error (.invalidAccess base false)

/-- The type of what a pointer points to. -/
def typeOfLoad (pointer : ExprId) : Shape → Except TypingFault Resolved
  | .pointer target _ => .ok (.named target)
  | .valuePointer (some n) s _ => .ok (.shape (.vector n s))
  | .valuePointer none s _ => .ok (.shape (.scalar s))
  | _ => .error (.invalidPointer pointer)

/-- A truth value for each component. -/
def truthShape (what : String) : Shape → Except TypingFault Resolved
  | .scalar _ => .ok (.shape (.scalar .bool))
  | .vector n _ => .ok (.shape (.vector n .bool))
  | other => .error (.incompatibleOperands (what ++ "(" ++ other.debugText ++ ", _)"))

/-- The type of a product. -/
def typeOfProduct (types : Arena ShaderType) (left right : ExprId) (l r : Resolved) :
    Except TypingFault Resolved :=
  match l.shapeIn types, r.shapeIn types with
  | .matrix _ rows s, .matrix columns _ _ => .ok (.shape (.matrix columns rows s))
  | .matrix _ rows s, .vector _ _ => .ok (.shape (.vector rows s))
  | .vector _ _, .matrix columns _ s => .ok (.shape (.vector columns s))
  | .scalar _, _ => .ok r
  | _, .scalar _ => .ok l
  | .vector _ _, .vector _ _ => .ok l
  | _, _ => .error (.incompatibleOperands s!"[{left}] * [{right}]")

def typeOfBinary (types : Arena ShaderType) (op : BinaryOperator) (left right : ExprId)
    (l r : Resolved) : Except TypingFault Resolved :=
  match op with
  | .add | .subtract | .divide | .modulo => .ok l
  | .multiply => typeOfProduct types left right l r
  | .and | .exclusiveOr | .inclusiveOr | .shiftLeft | .shiftRight => .ok l
  | _ => truthShape op.title (l.shapeIn types)

def typeOfMath (types : Arena ShaderType) (f : MathFunction) (first second : Resolved) :
    Except TypingFault Resolved :=
  let shape := first.shapeIn types
  let refuse : Except TypingFault Resolved :=
    .error (.incompatibleOperands (f.title ++ "(" ++ shape.debugText ++ ", _)"))
  match f with
  | .dot =>
    match shape with
    | .vector _ s => .ok (.shape (.scalar s))
    | _ => refuse
  | .outer =>
    match shape, second.shapeIn types with
    | .vector columns s, .vector rows _ => .ok (.shape (.matrix columns rows s))
    | _, _ => refuse
  | .distance | .length =>
    match shape with
    | .scalar s | .vector _ s => .ok (.shape (.scalar s))
    | _ => refuse
  | .transpose =>
    match shape with
    | .matrix c r s => .ok (.shape (.matrix r c s))
    | _ => refuse
  | .inverse =>
    match shape with
    | .matrix c r s => if c = r then .ok (.shape (.matrix c r s)) else refuse
    | _ => refuse
  | .determinant =>
    match shape with
    | .matrix _ _ s => .ok (.shape (.scalar s))
    | _ => refuse
  | .countTrailingZeros | .countLeadingZeros | .countOneBits | .reverseBits | .extractBits
  | .insertBits | .firstTrailingBit | .firstLeadingBit =>
    match shape with
    | .scalar s | .vector _ s => if s.kind.isInteger then .ok first else refuse
    | _ => refuse
  | _ => .ok first

/-- The type of an expression whose operands have the types that `known` gives. -/
def typeOfExpression (c : TypingContext) (known : ExprId → Resolved) :
    Expression → Except TypingFault Resolved
  | .literal l => .ok (.shape (.scalar l.scalar))
  | .constant i => .ok (.named (c.constants.get i).type)
  | .override i => .ok (.named (c.overrides.get i).type)
  | .zeroValue t => .ok (.named t)
  | .compose t _ => .ok (.named t)
  | .access base _ => typeOfAccess c.types base ((known base).shapeIn c.types)
  | .accessIndex base i => typeOfAccessIndex c.types base i ((known base).shapeIn c.types)
  | .splat n value =>
    match (known value).shapeIn c.types with
    | .scalar s => .ok (.shape (.vector n s))
    | _ => .error (.invalidScalar value)
  | .swizzle n vector _ =>
    match (known vector).shapeIn c.types with
    | .vector _ s => .ok (.shape (.vector n s))
    | _ => .error (.invalidVector vector)
  | .functionArgument i =>
    match c.arguments[i]? with
    | some a => .ok (.named a.type)
    | none => .error (.argumentNotFound i)
  | .globalVariable i =>
    let g := c.globals.get i
    -- a resource handle stands for itself
    if g.space = .handle then .ok (.named g.type) else .ok (.shape (.pointer g.type g.space))
  | .localVariable i => .ok (.shape (.pointer (c.locals.get i).type .function))
  | .load pointer => typeOfLoad pointer ((known pointer).shapeIn c.types)
  | .imageSample image _ _ _ _ _ =>
    match (known image).shapeIn c.types with
    | .image _ _ (.sampled kind _) => .ok (.shape (.vector .four ⟨kind, 4⟩))
    | .image _ _ (.depth _) => .ok (.shape (.scalar .f32))
    | _ => .error (.invalidImage image)
  | .unary _ e => .ok (known e)
  | .binary op l r => typeOfBinary c.types op l r (known l) (known r)
  | .select _ a _ => .ok (known a)
  | .derivative _ _ e => .ok (known e)
  | .relational f e =>
    match f with
    | .all | .any => .ok (.shape (.scalar .bool))
    | .isNan | .isInf => truthShape f.title ((known e).shapeIn c.types)
  | .math f args =>
    let first := known (args.headD 0)
    typeOfMath c.types f first (known (args[1]?.getD 0))
  | .convert e kind width =>
    match (known e).shapeIn c.types with
    | .scalar s => .ok (.shape (.scalar ⟨kind, width.getD s.width⟩))
    | .vector n s => .ok (.shape (.vector n ⟨kind, width.getD s.width⟩))
    | .matrix cs rs s => .ok (.shape (.matrix cs rs ⟨s.kind, width.getD s.width⟩))
    | other => .error (.incompatibleOperands ("Convert(" ++ other.debugText ++ ")"))
  | .callResult f =>
    match (c.functions.get f).result with
    | some r => .ok (.named r.type)
    | none => .error .functionReturnsVoid
  | .arrayLength _ => .ok (.shape (.scalar .u32))

/-- Do two shapes mean the same type, one being read as a pointer to a value where it matters? -/
def Shape.canonical (types : Arena ShaderType) : Shape → Shape
  | .pointer base space =>
    match (types.get base).shape with
    | .scalar s => .valuePointer none s space
    | .vector n s => .valuePointer (some n) s space
    | _ => .pointer base space
  | s => s

/-- Equality of shapes up to the two ways to write a pointer to a value. -/
def Shape.equivalent (types : Arena ShaderType) (a b : Shape) : Bool :=
  a.canonical types == b.canonical types

/-- The scalars that a value and a goal of the same build differ by, if the value converts to the
goal by itself. -/
def Shape.conversion? (types : Arena ShaderType) : Nat → Shape → Shape → Option (Scalar × Scalar)
  | depth, a, b =>
    let leaves : Option (Scalar × Scalar) :=
      match a, b with
      | .scalar x, .scalar y => some (x, y)
      | .vector m x, .vector n y => if m = n then some (x, y) else none
      | .matrix c r x, .matrix c' r' y => if c = c' ∧ r = r' then some (x, y) else none
      | .array base n _, .array base' n' _ =>
        match depth with
        | 0 => none
        | d + 1 =>
          if n = n' then conversion? types d (types.get base).shape (types.get base').shape else none
      | _, _ => none
    leaves.bind fun (x, y) => if x ≠ y ∧ x.convertsTo y then some (x, y) else none

/-- The scalar at the leaves of a value of arrays and vectors. -/
def Shape.leafScalar? (types : Arena ShaderType) : Nat → Shape → Option Scalar
  | _, .scalar s | _, .vector _ s | _, .matrix _ _ s => some s
  | d + 1, .array base _ _ => leafScalar? types d (types.get base).shape
  | _, _ => none

end ShaderConvert.Ir
