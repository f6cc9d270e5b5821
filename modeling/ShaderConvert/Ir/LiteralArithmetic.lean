import ShaderConvert.Ir.ConstantFault
import ShaderConvert.Number.Arithmetic
import ShaderConvert.Number.Power

/-
Arithmetic on literals, as it is done before a program runs.

Whole numbers that leave their range are an error, not a wrapped number; floating point values are
rounded to nearest.
-/
namespace ShaderConvert.Ir.Literal

open ShaderConvert.Number

/-- Values that are no finite number cannot be written. -/
def check : Literal → Except ConstantFault Unit
  | f32 b => ofFormat single b
  | f64 b | abstractFloat b => ofFormat double b
  | _ => .ok ()
where
  ofFormat (f : Format) (bits : Nat) : Except ConstantFault Unit :=
    if f.isNotANumber bits then .error (.literal .notANumber)
    else if f.isInfinite bits then .error (.literal .infinite)
    else .ok ()

/-- Is a whole number in the range of a signed integer of so many bits? -/
def fitsSigned (bits : Nat) (n : Int) : Bool :=
  let limit : Int := twoTo (bits - 1)
  n < limit && -limit ≤ n

def fitsUnsigned (bits : Nat) (n : Int) : Bool := 0 ≤ n && n < (twoTo bits : Int)

/-- The whole number that stands for the same bits, in the signed range. -/
def wrapSigned (bits : Nat) (n : Int) : Int := Int.bmod n (twoTo bits)

def wrapUnsigned (bits : Nat) (n : Int) : Nat := (n % (twoTo bits : Int)).toNat

/-- The nearest number in a range. -/
def clampTo (low high n : Int) : Int := if n < low then low else if high < n then high else n

/-- The nearest number in the range of a signed integer of so many bits. -/
def clampSigned (bits : Nat) (n : Int) : Int :=
  let limit : Int := twoTo (bits - 1)
  clampTo (-limit) (limit - 1) n

def clampUnsigned (bits : Nat) (n : Int) : Int := clampTo 0 ((twoTo bits : Int) - 1) n

/-- A finite floating point value as it is shown: the fewest digits, and a point. -/
def floatText (f : Format) (bits : Nat) : String :=
  match f.read bits with
  | .finite negative _ _ =>
    let (d, x) := f.shortest bits
    let (d, x) := stripZeros 400 d x
    let sign := if negative then "-" else ""
    let power : Int := x + ((digitsOf d).length : Int) - 1
    if d ≠ 0 ∧ (power ≥ 16 ∨ power < -4) then
      let (m, p) := scientificParts d x
      sign ++ m ++ s!"e{p}"
    else
      let text := positional d x
      sign ++ (if text.toList.contains '.' then text else text ++ ".0")
  | .infinite n => if n then "-inf" else "inf"
  | .notANumber _ _ => "NaN"

/-- The bits of a truth value as a number. -/
def ofTruth (b : Bool) : Int := if b then 1 else 0

/-- A literal in messages. -/
def debugText : Literal → String
  | f64 b => "F64(" ++ floatText double b ++ ")"
  | f32 b => "F32(" ++ floatText single b ++ ")"
  | u32 n => s!"U32({n})"
  | i32 n => s!"I32({n})"
  | u64 n => s!"U64({n})"
  | i64 n => s!"I64({n})"
  | bool b => "Bool(" ++ (if b then "true" else "false") ++ ")"
  | abstractInt n => s!"AbstractInt({n})"
  | abstractFloat b => "AbstractFloat(" ++ floatText double b ++ ")"

/-- An abstract number as a concrete integer, which has to hold it. -/
def integerOfAbstract (fits : Int → Bool) (goal : String) (n : Int) : Except ConstantFault Int :=
  if fits n then .ok n else .error (.lossyConversion (toString n) goal)

def toI32? : Literal → Except ConstantFault (Option Int)
  | i32 n => .ok (some n)
  | u32 n => .ok (some (wrapSigned 32 n))
  | f32 b => .ok (some (clampSigned 32 (single.fraction b).truncate))
  | bool b => .ok (some (ofTruth b))
  | abstractInt n => some <$> integerOfAbstract (fitsSigned 32) "i32" n
  | abstractFloat _ => .error .floatToInteger
  | f64 _ | i64 _ | u64 _ => .ok none

def toU32? : Literal → Except ConstantFault (Option Int)
  | i32 n => .ok (some (wrapUnsigned 32 n))
  | u32 n => .ok (some n)
  | f32 b => .ok (some (clampUnsigned 32 (single.fraction b).truncate))
  | bool b => .ok (some (ofTruth b))
  | abstractInt n => some <$> integerOfAbstract (fitsUnsigned 32) "u32" n
  | abstractFloat _ => .error .floatToInteger
  | f64 _ | i64 _ | u64 _ => .ok none

def toI64? : Literal → Except ConstantFault (Option Int)
  | i32 n => .ok (some n)
  | u32 n => .ok (some n)
  | f32 b => .ok (some (clampSigned 64 (single.fraction b).truncate))
  | f64 b => .ok (some (clampSigned 64 (double.fraction b).truncate))
  | bool b => .ok (some (ofTruth b))
  | i64 n => .ok (some n)
  | u64 n => .ok (some (wrapSigned 64 n))
  | abstractInt n => .ok (some n)
  | abstractFloat _ => .error .floatToInteger

def toU64? : Literal → Except ConstantFault (Option Int)
  | i32 n => .ok (some (wrapUnsigned 64 n))
  | u32 n => .ok (some n)
  | f32 b => .ok (some (clampUnsigned 64 (single.fraction b).truncate))
  | f64 b => .ok (some (clampUnsigned 64 (double.fraction b).truncate))
  | bool b => .ok (some (ofTruth b))
  | i64 n => .ok (some (wrapUnsigned 64 n))
  | u64 n => .ok (some n)
  | abstractInt n => some <$> integerOfAbstract (fitsUnsigned 64) "u64" n
  | abstractFloat _ => .error .floatToInteger

def toF32? : Literal → Except ConstantFault (Option Nat)
  | i32 n => .ok (some (single.ofInt n))
  | u32 n => .ok (some (single.ofInt n))
  | f32 b => .ok (some b)
  | bool b => .ok (some (single.ofInt (ofTruth b)))
  | f64 _ | i64 _ | u64 _ => .ok none
  | abstractInt n => .ok (some (single.ofInt n))
  | abstractFloat b =>
    let r := double.convert single b
    if single.isInfinite r then .error (.lossyConversion (floatText double b) "f32")
    else .ok (some r)

def toF64? : Literal → Option Nat
  | i32 n => some (double.ofInt n)
  | u32 n => some (double.ofInt n)
  | f32 b => some (single.convert double b)
  | f64 b => some b
  | bool b => some (double.ofInt (ofTruth b))
  | i64 _ | u64 _ => none
  | abstractInt n => some (double.ofInt n)
  | abstractFloat b => some b

def toBool? : Literal → Option Bool
  | i32 n => some (n ≠ 0)
  | u32 n => some (n ≠ 0)
  | f32 b => some ((single.fraction b).num ≠ 0)
  | bool b => some b
  | _ => none

/-- The literal as a value of another scalar; `none` if there is no such conversion. -/
def cast? (l : Literal) (target : Scalar) : Except ConstantFault (Option Literal) :=
  match target.kind, target.width with
  | .sint, 4 => return (← l.toI32?).map i32
  | .uint, 4 => return (← l.toU32?).map fun n => u32 n.toNat
  | .sint, 8 => return (← l.toI64?).map i64
  | .uint, 8 => return (← l.toU64?).map fun n => u64 n.toNat
  | .float, 4 => return (← l.toF32?).map f32
  | .float, 8 => return l.toF64?.map f64
  | .bool, 1 => return l.toBool?.map bool
  | .abstractFloat, _ =>
    match l with
    | abstractInt n => return some (abstractFloat (double.ofInt n))
    | abstractFloat b => return some (abstractFloat b)
    | _ => return none
  | .abstractInt, _ =>
    match l with
    | abstractInt n => return some (abstractInt n)
    | _ => return none
  | _, _ => return none

def negate : Literal → Except ConstantFault Literal
  | i32 n => .ok (i32 (wrapSigned 32 (-n)))
  | f32 b => .ok (f32 (single.neg b))
  | abstractInt n => .ok (abstractInt (wrapSigned 64 (-n)))
  | abstractFloat b => .ok (abstractFloat (double.neg b))
  | _ => .error .unaryArgument

def unary (op : UnaryOperator) (l : Literal) : Except ConstantFault Literal :=
  match op, l with
  | .negate, l => l.negate
  | .logicalNot, bool b => .ok (bool !b)
  | .bitwiseNot, i32 n => .ok (i32 (-n - 1))
  | .bitwiseNot, u32 n => .ok (u32 (twoTo 32 - 1 - n))
  | .bitwiseNot, abstractInt n => .ok (abstractInt (-n - 1))
  | _, _ => .error .unaryArgument

/-- The place of a literal's type in the order of types. -/
def typeRank : Literal → Nat
  | f64 _ => 0
  | f32 _ => 1
  | u32 _ => 2
  | i32 _ => 3
  | u64 _ => 4
  | i64 _ => 5
  | bool _ => 6
  | abstractInt _ => 7
  | abstractFloat _ => 8

/-- The value as a fraction. -/
def fraction : Literal → Fraction
  | f64 b | abstractFloat b => double.fraction b
  | f32 b => single.fraction b
  | u32 n | u64 n => ⟨false, n, 1⟩
  | i32 n | i64 n | abstractInt n => ⟨n < 0, n.natAbs, 1⟩
  | bool b => ⟨false, if b then 1 else 0, 1⟩

/-- Literals of one type are compared by value, those of two types by type. -/
def less (a b : Literal) : Bool :=
  if a.typeRank = b.typeRank then a.fraction.less b.fraction else a.typeRank < b.typeRank

def same (a b : Literal) : Bool :=
  a.typeRank == b.typeRank && a.fraction.equal b.fraction

/-- Bits of two whole numbers combined, in two's complement of so many bits. -/
def bitwise (bits : Nat) (f : Nat → Nat → Nat) (a b : Int) : Int :=
  wrapSigned bits (f (wrapUnsigned bits a) (wrapUnsigned bits b))

/-- Arithmetic on whole numbers of a range. -/
def integerBinary (op : BinaryOperator) (bits : Nat) (fits : Int → Bool) (a b : Int) :
    Except ConstantFault Int :=
  let within (what : String) (n : Int) : Except ConstantFault Int :=
    if fits n then .ok n else .error (.overflow what)
  match op with
  | .add => within "addition" (a + b)
  | .subtract => within "subtraction" (a - b)
  | .multiply => within "multiplication" (a * b)
  | .divide => if b = 0 then .error .divisionByZero else within "division" (a.tdiv b)
  | .modulo =>
    if b = 0 then .error .remainderByZero
    -- the remainder exists only where the quotient does
    else if fits (a.tdiv b) then .ok (a.tmod b) else .error (.overflow "remainder")
  | .and => .ok (bitwise bits (· &&& ·) a b)
  | .exclusiveOr => .ok (bitwise bits (· ^^^ ·) a b)
  | .inclusiveOr => .ok (bitwise bits (· ||| ·) a b)
  | _ => .error .binaryArguments

def floatBinary (f : Format) (op : BinaryOperator) (a b : Nat) : Except ConstantFault Nat :=
  match op with
  | .add => .ok (f.add a b)
  | .subtract => .ok (f.sub a b)
  | .multiply => .ok (f.mul a b)
  | .divide => .ok (f.div a b)
  | .modulo => .ok (f.rem a b)
  | _ => .error .binaryArguments

/-- A signed number shifted left must keep its value's bits and its sign. -/
def shiftI32 (op : BinaryOperator) (a : Int) (b : Nat) : Except ConstantFault Int :=
  match op with
  | .shiftLeft =>
    let magnitude := if a < 0 then -a - 1 else a
    let used := if magnitude = 0 then 0 else Nat.log2 magnitude.toNat + 1
    if 32 - used ≤ b then .error (.overflow "<<") else .ok (a * twoTo b)
  | .shiftRight => if b ≥ 32 then .error .shiftedTooFar else .ok (a.fdiv (twoTo b))
  | _ => .error .binaryArguments

def shiftU32 (op : BinaryOperator) (a b : Nat) : Except ConstantFault Nat :=
  match op with
  | .shiftLeft =>
    if b ≥ 32 then .error .shiftedTooFar
    else if a * twoTo b < twoTo 32 then .ok (a * twoTo b) else .error (.overflow "<<")
  | .shiftRight => if b ≥ 32 then .error .shiftedTooFar else .ok (a / twoTo b)
  | _ => .error .binaryArguments

def binary (op : BinaryOperator) (a b : Literal) : Except ConstantFault Literal :=
  match op with
  | .equal => .ok (bool (a.same b))
  | .notEqual => .ok (bool !(a.same b))
  | .less => .ok (bool (a.less b))
  | .lessEqual => .ok (bool (a.less b || a.same b))
  | .greater => .ok (bool (b.less a))
  | .greaterEqual => .ok (bool (b.less a || a.same b))
  | _ =>
    match a, b with
    | i32 x, i32 y => i32 <$> integerBinary op 32 (fitsSigned 32) x y
    | i32 x, u32 y => i32 <$> shiftI32 op x y
    | u32 x, u32 y =>
      if op.isShift then u32 <$> shiftU32 op x y
      else (fun n => u32 (wrapUnsigned 32 n)) <$> integerBinary op 32 (fitsUnsigned 32) x y
    | f32 x, f32 y => f32 <$> floatBinary single op x y
    | abstractInt x, abstractInt y => abstractInt <$> integerBinary op 64 (fitsSigned 64) x y
    | abstractFloat x, abstractFloat y => abstractFloat <$> floatBinary double op x y
    | bool x, bool y =>
      match op with
      | .logicalAnd => .ok (bool (x && y))
      | .logicalOr => .ok (bool (x || y))
      | _ => .error .binaryArguments
    | _, _ => .error .binaryArguments

end ShaderConvert.Ir.Literal
