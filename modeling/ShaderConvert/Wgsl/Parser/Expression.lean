import ShaderConvert.Wgsl.Parser.Cursor

/-
Types and expressions.

Expressions and types contain each other. `Nested` holds the parsers for what stands one level
deeper, and each parser here takes them as an argument; `nested` ties the knot, by recursion on a
bound for the depth.
-/
namespace ShaderConvert.Wgsl.Parser

open Ast Ir

/-- Parsers for the parts of an expression or a type. -/
structure Nested where
  expression : P Expr
  unary : P Expr
  type : P TypeExpr

def scalarOfName? : String → Option Scalar
  | "f32" => some .f32
  | "f64" => some .f64
  | "i32" => some .i32
  | "i64" => some .i64
  | "u32" => some .u32
  | "u64" => some .u64
  | "bool" => some .bool
  | _ => none

/-- A scalar in angle brackets. -/
def scalarParameter : P (Scalar × Span) := do
  expectAngle '<'
  let found ← match ← next with
    | (.word w, p) =>
      match scalarOfName? w with
      | some s => pure (s, p)
      | none => throw (.unknownScalarType p)
    | (_, p) => throw (.unknownScalarType p)
  expectAngle '>'
  return found

/-- The sizes in a name such as `vec3` or `mat4x3`, and what follows them. -/
inductive Numbered where
  | vector (size : VectorSize) (suffix : List Char)
  | matrix (columns rows : VectorSize) (suffix : List Char)

def sizeOfDigit? (c : Char) : Option VectorSize := VectorSize.ofCount? (c.toNat - 48)

def numbered? (name : String) : Option Numbered :=
  match name.toList with
  | 'v' :: 'e' :: 'c' :: n :: suffix => (sizeOfDigit? n).map fun n => .vector n suffix
  | 'm' :: 'a' :: 't' :: c :: 'x' :: r :: suffix => do
    return .matrix (← sizeOfDigit? c) (← sizeOfDigit? r) suffix
  | _ => none

/-- The scalar that a letter behind a vector's name stands for. -/
def scalarOfLetter? : List Char → Option Scalar
  | ['i'] => some .i32
  | ['u'] => some .u32
  | ['f'] => some .f32
  | _ => none

def addressSpaceOf (i : Ident) : P AddressSpace :=
  match i.name with
  | "private" => return .privateSpace
  | "workgroup" => return .workGroup
  | "uniform" => return .uniform
  | "storage" => return .storage {}
  | "push_constant" => return .pushConstant
  | "function" => return .function
  | _ => throw (.unknownAddressSpace i.place)

def storageAccess : P StorageAccess := do
  let i ← nextWord
  match i.name with
  | "read" => return { load := true }
  | "write" => return { store := true }
  | "read_write" => return { load := true, store := true }
  | _ => throw (.unknownAccess i.place)

/-- A matrix's scalar in angle brackets. -/
def matrixParameter : P Nat := do
  let (s, p) ← scalarParameter
  if s.kind = .float then return s.width else throw (.badMatrixScalar p s.sourceName)

/-- The element type of a texture. -/
def textureParameter : P ScalarKind := do
  let (s, p) ← scalarParameter
  match s.kind, s.width with
  | .float, 4 | .sint, 4 | .uint, 4 => return s.kind
  | _, _ => throw (.badTextureSample p s.sourceName)

/-- The count of an array behind a comma, if there is one. -/
def arrayCount (n : Nested) : P (Option Expr) := do
  if (← skip (.separator ',')) then return some (← n.unary) else return none

def pointerType (n : Nested) : P TypeExpr := do
  expectAngle '<'
  let space ← addressSpaceOf (← nextWord)
  expect (.separator ',')
  let base ← n.type
  let space ← match space with
    | .storage _ => do
      let access ← if (← skip (.separator ',')) then storageAccess else pure { load := true }
      pure (.storage access)
    | other => pure other
  expectAngle '>'
  return .pointer base space

def arrayType (n : Nested) : P (TypeExpr × Option Expr) := do
  expectAngle '<'
  let base ← n.type
  let size ← arrayCount n
  expectAngle '>'
  return (base, size)

/-- The type that a word begins, if the language has it. -/
def builtInType (n : Nested) (name : String) : P (Option TypeExpr) := do
  match scalarOfName? name, numbered? name with
  | some s, _ => return some (.scalar s)
  | none, some (.vector size []) => return some (.vector size (← scalarParameter).1)
  | none, some (.vector size suffix) => return (scalarOfLetter? suffix).map (.vector size)
  | none, some (.matrix c r []) => return some (.matrix c r (← matrixParameter))
  | none, some (.matrix c r ['f']) => return some (.matrix c r 4)
  | none, _ =>
    match name with
    | "ptr" => return some (← pointerType n)
    | "array" =>
      let (base, size) ← arrayType n
      return some (.array base size)
    | "sampler" => return some (.sampler false)
    | "sampler_comparison" => return some (.sampler true)
    | "texture_1d" => return some (.image .d1 false (.sampled (← textureParameter) false))
    | "texture_2d" => return some (.image .d2 false (.sampled (← textureParameter) false))
    | "texture_2d_array" => return some (.image .d2 true (.sampled (← textureParameter) false))
    | "texture_3d" => return some (.image .d3 false (.sampled (← textureParameter) false))
    | "texture_cube" => return some (.image .cube false (.sampled (← textureParameter) false))
    | "texture_cube_array" => return some (.image .cube true (.sampled (← textureParameter) false))
    | "texture_multisampled_2d" =>
      return some (.image .d2 false (.sampled (← textureParameter) true))
    | "texture_depth_2d" => return some (.image .d2 false (.depth false))
    | "texture_depth_2d_array" => return some (.image .d2 true (.depth false))
    | "texture_depth_cube" => return some (.image .cube false (.depth false))
    | "texture_depth_cube_array" => return some (.image .cube true (.depth false))
    | "texture_depth_multisampled_2d" => return some (.image .d2 false (.depth true))
    | _ => return none

/-- A type. -/
def typeStep (n : Nested) : P TypeExpr := do
  let _ ← startOffset
  let i ← nextWord
  match ← builtInType n i.name with
  | some t => return t
  | none => do
    use i
    return .user i

/-- Types that no value can be built of. -/
def isOpaqueType (name : String) : Bool :=
  ["atomic", "binding_array", "sampler", "sampler_comparison", "texture_1d", "texture_1d_array",
    "texture_2d", "texture_2d_array", "texture_3d", "texture_cube", "texture_cube_array",
    "texture_multisampled_2d", "texture_multisampled_2d_array", "texture_depth_2d",
    "texture_depth_2d_array", "texture_depth_cube", "texture_depth_cube_array",
    "texture_depth_multisampled_2d", "texture_storage_1d", "texture_storage_1d_array",
    "texture_storage_2d", "texture_storage_2d_array", "texture_storage_3d"].contains name

/-- Is the next token an opening angle bracket? -/
def anglePeek : P Bool := do return (← peek).1.isSame (.bracket '<')

/-- The type that a word in front of arguments begins, if the language has it. -/
def constructorType (n : Nested) (i : Ident) : P (Option Constructor) := do
  match scalarOfName? i.name, numbered? i.name with
  | some s, _ => return some (.scalar s)
  | none, some (.vector size []) =>
    if (← anglePeek) then return some (.vector size (← scalarParameter).1)
    else return some (.partialVector size)
  | none, some (.vector size suffix) => return (scalarOfLetter? suffix).map (.vector size)
  | none, some (.matrix c r []) =>
    if (← anglePeek) then return some (.matrix c r (← matrixParameter))
    else return some (.partialMatrix c r)
  | none, some (.matrix c r ['f']) => return some (.matrix c r 4)
  | none, _ =>
    if i.name = "array" then
      if (← anglePeek) then
        let (base, size) ← arrayType n
        return some (.array base size)
      else return some .partialArray
    else if isOpaqueType i.name then throw (.notConstructible i.place)
    else return none

/-- Is there another argument? A comma before the closing bracket is allowed. -/
def anotherArgument : P Bool := do
  if (← skip (.separator ',')) then return !(← skip (.bracket ')'))
  else
    expect (.bracket ')')
    return false

/-- Arguments in brackets. -/
def arguments (n : Nested) : P (List Expr) := do
  expect (.bracket '(')
  let args ← repeatWhile (#[] : Array Expr) fun args => do
    let more ← if args.isEmpty then (!·) <$> skip (.bracket ')') else anotherArgument
    if more then return (args.push (← n.expression), true) else return (args, false)
  return args.toList

def bitcast (n : Nested) (start : Nat) : P Expr := do
  expectAngle '<'
  let (t, p) ← withPlace n.type
  expectAngle '>'
  expect (.bracket '(')
  let e ← n.expression
  let _ ← skip (.separator ',')
  expect (.bracket ')')
  return .bitcast e t p (← placeFrom start)

/-- A name, a call, or a value built of arguments. -/
def wordExpression (n : Nested) (start : Nat) : P Expr := do
  match ← next with
  | (.word w, p) =>
    let i : Ident := ⟨w, p⟩
    match ← constructorType n i with
    | some t => do
      let typePlace ← placeFrom start
      let args ← arguments n
      return .construct t typePlace args (← placeFrom start)
    | none =>
      if w = "bitcast" then bitcast n start
      else if (← peek).1.isSame (.bracket '(') then
        let args ← arguments n
        use i
        return .call i args (← placeFrom start)
      else
        match ← lookup w with
        | some slot => return .ident w (some slot) p
        | none =>
          use i
          return .ident w none p
  | (_, p) => unexpected p .expression

/-- A literal, a name, a call, or an expression in brackets. -/
def primary (n : Nested) : P Expr := do
  let start ← startOffset
  match ← peek with
  | (.bracket '(', _) => do
    let _ ← next
    let e ← n.expression
    expect (.bracket ')')
    return e
  | (.word "true", p) => do
    let _ ← next
    return .literal (.bool true) p
  | (.word "false", p) => do
    let _ ← next
    return .literal (.bool false) p
  | (.number v, p) => do
    let _ ← next
    match v with
    | .ok v => return .literal (.number v) p
    | .error f => throw (.badNumber p f)
  | (.word _, _) => wordExpression n start
  | (_, p) => unexpected p .expression

/-- Members and elements behind an expression. -/
def postfixes (n : Nested) (start : Nat) (e : Expr) : P Expr :=
  repeatWhile e fun e => do
    match ← peek with
    | (.separator '.', _) => do
      let _ ← next
      let field ← nextIdent
      return (.member e field (← placeFrom start), true)
    | (.bracket '[', _) => do
      let _ ← next
      let index ← n.expression
      expect (.bracket ']')
      return (.index e index (← placeFrom start), true)
    | _ => return (e, false)

def unaryStep (n : Nested) : P Expr := do
  let start ← startOffset
  let operated (make : Expr → Span → Expr) : P Expr := do
    let _ ← next
    let e ← n.unary
    return make e (← placeFrom start)
  match ← peek with
  | (.operation '-', _) => operated (.unary .negate)
  | (.operation '!', _) => operated (.unary .logicalNot)
  | (.operation '~', _) => operated (.unary .bitwiseNot)
  | (.operation '*', _) => operated .deref
  | (.operation '&', _) => operated .addressOf
  | _ => do
    let e ← primary n
    postfixes n start e

/-- Operands of one level of precedence, joined from the left. -/
def chain (classify : Token → Option BinaryOperator) (operand : P Expr) : P Expr := do
  let start ← startOffset
  let first ← operand
  repeatWhile first fun left => do
    match classify (← peek).1 with
    | none => return (left, false)
    | some op => do
      let _ ← next
      let right ← operand
      return (.binary op left right (← placeFrom start), true)

def multiplicative : Token → Option BinaryOperator
  | .operation '*' => some .multiply
  | .operation '/' => some .divide
  | .operation '%' => some .modulo
  | _ => none

def additive : Token → Option BinaryOperator
  | .operation '+' => some .add
  | .operation '-' => some .subtract
  | _ => none

def shifting : Token → Option BinaryOperator
  | .shift '<' => some .shiftLeft
  | .shift '>' => some .shiftRight
  | _ => none

def relational : Token → Option BinaryOperator
  | .bracket '<' => some .less
  | .bracket '>' => some .greater
  | .logical '<' => some .lessEqual
  | .logical '>' => some .greaterEqual
  | _ => none

def equality : Token → Option BinaryOperator
  | .logical '=' => some .equal
  | .logical '!' => some .notEqual
  | _ => none

/-- A level with a single operator. -/
def only (symbol : Token) (op : BinaryOperator) (t : Token) : Option BinaryOperator :=
  if t.isSame symbol then some op else none

/-- The levels of precedence, the tightest first. -/
def levels : List (Token → Option BinaryOperator) :=
  [multiplicative, additive, shifting, relational, equality, only (.operation '&') .and,
    only (.operation '^') .exclusiveOr, only (.operation '|') .inclusiveOr,
    only (.logical '&') .logicalAnd, only (.logical '|') .logicalOr]

def expressionStep (n : Nested) : P Expr :=
  levels.foldl (fun operand level => chain level operand) (unaryStep n)

/-- Parsers for expressions and types of bounded depth. -/
def nested : Nat → Nested
  | 0 => ⟨throw .other, throw .other, throw .other⟩
  | depth + 1 =>
    let inner := nested depth
    ⟨expressionStep inner, unaryStep inner, typeStep inner⟩

/-- Parsers for any depth that the rest of the text can hold. -/
def nestedHere : P Nested := do return nested (← stepsLeft)

def expression : P Expr := do (← nestedHere).expression

def type : P TypeExpr := do (← nestedHere).type

end ShaderConvert.Wgsl.Parser
