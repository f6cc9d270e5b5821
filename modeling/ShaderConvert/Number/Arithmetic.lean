import ShaderConvert.Number.Binary
import ShaderConvert.Number.Power

/-
Arithmetic on finite floating point values, exact until the last step.

A finite bit pattern is read as a fraction with a power of two below the line (`Format.fraction`);
sums, products, quotients and remainders are computed there and rounded once. What has no finite
value comes out as an infinity or as no number, by the usual rules.
-/
namespace ShaderConvert.Number

/-- A fraction: `(-1)^negative * num / den`. The sign counts for zero, too. -/
structure Fraction where
  negative : Bool
  num : Nat
  den : Nat
deriving Repr, DecidableEq, Inhabited

namespace Fraction

def signed (f : Fraction) : Int := if f.negative then -(f.num : Int) else f.num

/-- The fraction of a signed numerator. -/
def ofSigned (n : Int) (den : Nat) (negativeZero : Bool) : Fraction :=
  ⟨if n = 0 then negativeZero else n < 0, n.natAbs, den⟩

def neg (f : Fraction) : Fraction := { f with negative := !f.negative }

/-- A zero sum is negative only if both parts are. -/
def add (a b : Fraction) : Fraction :=
  ofSigned (a.signed * b.den + b.signed * a.den) (a.den * b.den) (a.negative && b.negative)

def mul (a b : Fraction) : Fraction := ⟨a.negative != b.negative, a.num * b.num, a.den * b.den⟩

/-- The whole part, toward zero. -/
def truncate (f : Fraction) : Int :=
  let q := f.num / f.den
  if f.negative then -(q : Int) else q

def isWhole (f : Fraction) : Bool := f.num % f.den == 0

def floor (f : Fraction) : Int :=
  if f.negative && !f.isWhole then f.truncate - 1 else f.truncate

def ceil (f : Fraction) : Int :=
  if !f.negative && !f.isWhole then f.truncate + 1 else f.truncate

/-- The nearest whole number, ties to the even one. -/
def nearest (f : Fraction) : Int :=
  let q := Format.roundDiv f.num f.den
  if f.negative then -(q : Int) else q

def less (a b : Fraction) : Bool := a.signed * b.den < b.signed * a.den

def equal (a b : Fraction) : Bool := a.signed * b.den == b.signed * a.den

end Fraction

namespace Format

variable (f : Format)

/-- The fraction of a finite bit pattern. -/
def fraction (bits : Nat) : Fraction :=
  match f.read bits with
  | .finite negative m e => ⟨negative, m * twoTo e.toNat, twoTo (-e).toNat⟩
  | _ => ⟨false, 0, 1⟩

/-- The bits of the value nearest to a fraction. -/
def ofFraction (x : Fraction) : Nat := f.round x.negative x.num x.den

def ofInt (n : Int) : Nat := f.round (n < 0) n.natAbs 1

/-- The bits of a value that is no number. -/
def notANumberBits : Nat := f.fieldMax * twoTo f.fractionBits + twoTo (f.fractionBits - 1)

def isNotANumber (bits : Nat) : Bool :=
  match f.read bits with
  | .notANumber _ _ => true
  | _ => false

def add (a b : Nat) : Nat := f.ofFraction ((f.fraction a).add (f.fraction b))

def sub (a b : Nat) : Nat := f.ofFraction ((f.fraction a).add (f.fraction b).neg)

def mul (a b : Nat) : Nat := f.ofFraction ((f.fraction a).mul (f.fraction b))

def div (a b : Nat) : Nat :=
  let x := f.fraction a
  let y := f.fraction b
  if y.num = 0 then
    if x.num = 0 then f.notANumberBits else f.infinityBits (x.negative != y.negative)
  else f.ofFraction ⟨x.negative != y.negative, x.num * y.den, x.den * y.num⟩

/-- The remainder of the quotient rounded toward zero; it has the sign of the first. -/
def rem (a b : Nat) : Nat :=
  let x := f.fraction a
  let y := f.fraction b
  if y.num = 0 then f.notANumberBits
  else f.ofFraction ⟨x.negative, (x.num * y.den) % (y.num * x.den), x.den * y.den⟩

def neg (a : Nat) : Nat :=
  let s := f.signBit true
  if a / s % 2 = 1 then a - s else a + s

/-- The value of another format nearest to a finite value of this one. -/
def convert (target : Format) (bits : Nat) : Nat := target.ofFraction (f.fraction bits)

end Format

end ShaderConvert.Number
