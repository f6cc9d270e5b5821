import ShaderConvert.Number.Power

/-
Binary floating point formats, decided in whole numbers.

A finite value of a format is `mantissa * 2 ^ exponent`. Three functions tie values to digits:

* `Format.round` gives the value nearest to a fraction, ties to the even mantissa;
* `Format.ofDecimal` reads a decimal `digits * 10 ^ exponent` through it;
* `Format.shortest` gives the fewest decimal digits that read back, and of those the nearest.

Bit patterns are natural numbers, sign bit first.
-/
namespace ShaderConvert.Number

/-- A format: bits of the exponent field and of the stored fraction. -/
structure Format where
  exponentBits : Nat
  fractionBits : Nat
deriving Repr, DecidableEq

def half : Format := ⟨5, 10⟩
def single : Format := ⟨8, 23⟩
def double : Format := ⟨11, 52⟩

/-- What a bit pattern stands for. -/
inductive Reading where
  | finite (negative : Bool) (mantissa : Nat) (exponent : Int)
  | infinite (negative : Bool)
  | notANumber (negative : Bool) (payload : Nat)
deriving Repr, DecidableEq

namespace Format

variable (f : Format)

def width : Nat := 1 + f.exponentBits + f.fractionBits

def bias : Nat := twoTo (f.exponentBits - 1) - 1

/-- The largest value of the exponent field, kept for infinities and for what is no number. -/
def fieldMax : Nat := twoTo f.exponentBits - 1

/-- The exponent of the last mantissa bit of the smallest values. -/
def minExponent : Int := 1 - (f.bias : Int) - f.fractionBits

def read (bits : Nat) : Reading :=
  let negative := bits / twoTo (f.exponentBits + f.fractionBits) % 2 = 1
  let field := bits / twoTo f.fractionBits % twoTo f.exponentBits
  let fraction := bits % twoTo f.fractionBits
  if field = f.fieldMax then
    if fraction = 0 then .infinite negative else .notANumber negative fraction
  else if field = 0 then .finite negative fraction f.minExponent
  else .finite negative (twoTo f.fractionBits + fraction) (f.minExponent + (field : Int) - 1)

def signBit (negative : Bool) : Nat :=
  if negative then twoTo (f.exponentBits + f.fractionBits) else 0

def infinityBits (negative : Bool) : Nat := f.signBit negative + f.fieldMax * twoTo f.fractionBits

/-- The bits of `mantissa * 2 ^ (minExponent + shift)`; the mantissa has at most one bit more than
the stored fraction. -/
def assemble (negative : Bool) (mantissa shift : Nat) : Nat :=
  -- a mantissa that rounding carried to the next power of two
  let (m, s) := if mantissa = twoTo (f.fractionBits + 1) then (twoTo f.fractionBits, shift + 1)
    else (mantissa, shift)
  if m < twoTo f.fractionBits then f.signBit negative + m
  else if s + 1 ≥ f.fieldMax then f.infinityBits negative
  else f.signBit negative + (s + 1) * twoTo f.fractionBits + (m - twoTo f.fractionBits)

/-- The quotient rounded to nearest, ties to even. -/
def roundDiv (num den : Nat) : Nat :=
  let q := num / den
  let r := num % den
  if 2 * r > den ∨ (2 * r = den ∧ q % 2 = 1) then q + 1 else q

/-- The bits of the value nearest to `num / den`. -/
def round (negative : Bool) (num den : Nat) : Nat :=
  if num = 0 then f.signBit negative
  else
    -- the exponent of the leading bit, exact or one too small
    let lead : Int := (Nat.log2 num : Int) - Nat.log2 den
    let lead := if lead ≥ 0 then (if num ≥ den * twoTo lead.toNat then lead else lead - 1)
      else (if num * twoTo (-lead).toNat ≥ den then lead else lead - 1)
    let exponent := max f.minExponent (lead - f.fractionBits)
    let m := if exponent ≥ 0 then roundDiv num (den * twoTo exponent.toNat)
      else roundDiv (num * twoTo (-exponent).toNat) den
    f.assemble negative m (exponent - f.minExponent).toNat

/-- The bits of the value nearest to `digits * 10 ^ exponent`. -/
def ofDecimal (negative : Bool) (digits : Nat) (exponent : Int) : Nat :=
  if digits = 0 then f.signBit negative
  else if exponent > 400 then f.infinityBits negative
  else if exponent < -1500 ∧ digits < tenTo 1000 then f.signBit negative
  else if exponent ≥ 0 then f.round negative (digits * tenTo exponent.toNat) 1
  else f.round negative digits (tenTo (-exponent).toNat)

def isInfinite (bits : Nat) : Bool :=
  match f.read bits with
  | .infinite _ => true
  | _ => false

/-- `digits * 10 ^ exponent` for the first number of digits at which a decimal reads back as
`mantissa * 2 ^ exponent2`. -/
def shortestFrom (bits mantissa : Nat) (exponent2 : Int) : Nat → Int → Nat × Int
  | 0, exponent => (mantissa, exponent)
  | tries + 1, exponent =>
    -- the two neighbours on the grid of 10 ^ exponent
    let num := mantissa * twoTo exponent2.toNat * tenTo (-exponent).toNat
    let den := twoTo (-exponent2).toNat * tenTo exponent.toNat
    let below := num / den
    let lowHits := f.ofDecimal false below exponent == bits && below != 0
    let highHits := f.ofDecimal false (below + 1) exponent == bits
    let r := num % den
    if lowHits && highHits then
      if 2 * r < den ∨ (2 * r = den ∧ below % 2 = 0) then (below, exponent) else (below + 1, exponent)
    else if lowHits then (below, exponent)
    else if highHits then (below + 1, exponent)
    else shortestFrom bits mantissa exponent2 tries (exponent - 1)

/-- The fewest digits that read back as a positive finite value, with the exponent of ten of the
last digit. -/
def shortest (bits : Nat) : Nat × Int :=
  match f.read bits with
  | .finite _ m e =>
    if m = 0 then (0, 0)
    else
      -- start one above the power of ten of the first digit
      let lead : Int := Nat.log2 m + e
      let start : Int := lead * 30103 / 100000 + 2
      let (d, x) := f.shortestFrom (bits % twoTo (f.exponentBits + f.fractionBits)) m e 25 start
      (d, x)
  | _ => (0, 0)

end Format

/-- Decimal digits of a number. -/
def digitsOf (n : Nat) : List Char := Nat.toDigits 10 n

/-- Digits and exponent without zeros at the end. -/
def stripZeros : Nat → Nat → Int → Nat × Int
  | 0, d, x => (d, x)
  | fuel + 1, d, x => if d ≠ 0 ∧ d % 10 = 0 then stripZeros fuel (d / 10) (x + 1) else (d, x)

/-- `digits * 10 ^ exponent` without an exponent mark; a whole number has no point. -/
def positional (digits : Nat) (exponent : Int) : String :=
  let ds := digitsOf digits
  if exponent ≥ 0 then String.ofList (ds ++ List.replicate exponent.toNat '0')
  else
    let places := (-exponent).toNat
    if ds.length > places then
      String.ofList (ds.take (ds.length - places) ++ '.' :: ds.drop (ds.length - places))
    else String.ofList ('0' :: '.' :: (List.replicate (places - ds.length) '0' ++ ds))

/-- One digit before the point, and the power of ten of that digit. -/
def scientificParts (digits : Nat) (exponent : Int) : String × Int :=
  let ds := digitsOf digits
  let power : Int := exponent + (ds.length : Int) - 1
  match ds with
  | [] => ("0", power)
  | [d] => (String.ofList [d], power)
  | d :: r => (String.ofList (d :: '.' :: r), power)

end ShaderConvert.Number
