import ShaderConvert.Number.Binary
import ShaderConvert.Number.Power
import ShaderConvert.Text.Lines
import ShaderConvert.Words

/-
Numbers in assembly text: how a literal becomes words, and how words are written back.

* `parseInteger` reads decimal, octal and hexadecimal digits; the whole text must be the number.
* `encode` gives the words of a literal of a type, lowest word first.
* `write` gives the text of a number. Floating point numbers have 9 or 17 significant digits, as
  many as are needed to read them back; what is not normal is written in hexadecimal.
-/
namespace ShaderConvert.Spirv

/-- The type that a number is read or written as. -/
inductive NumberType where
  | unsigned (width : Nat)
  | signed (width : Nat)
  | float (width : Nat)
deriving Repr, DecidableEq, Inhabited

namespace NumberType

def width : NumberType → Nat
  | unsigned w | signed w | float w => w

/-- Numbers take whole words. -/
def wordCount (t : NumberType) : Nat := (t.width + 31) / 32

end NumberType

namespace Numeral

def digitValue? (c : Char) : Option Nat :=
  if '0' ≤ c && c ≤ '9' then some (c.toNat - '0'.toNat)
  else if 'a' ≤ c && c ≤ 'f' then some (c.toNat - 'a'.toNat + 10)
  else if 'A' ≤ c && c ≤ 'F' then some (c.toNat - 'A'.toNat + 10)
  else none

/-- The value of digits of a base; there is at least one, and nothing else. -/
def digits? (base : Nat) (cs : List Char) : Option Nat :=
  if cs.isEmpty then none
  else cs.foldlM (fun n c => do
    let d ← digitValue? c
    if d < base then some (n * base + d) else none) 0

/-- Digits with the mark of their base: `0x` for sixteen, a leading zero for eight. -/
def magnitude? : List Char → Option Nat
  | '0' :: 'x' :: r => digits? 16 r
  | '0' :: 'X' :: r => digits? 16 r
  | '0' :: r => digits? 8 ('0' :: r)
  | cs => digits? 10 cs

/-- A number without a minus sign, below `limit`. -/
def parseUnsigned? (limit : Nat) (cs : List Char) : Option Nat := do
  let n ← match cs with
    | '+' :: r => magnitude? r
    | cs => magnitude? cs
  if n < limit then some n else none

/-- A number that fits 64 bits with a sign. -/
def parseSigned? (cs : List Char) : Option Int := do
  let n ← match cs with
    | '-' :: r => (magnitude? r).map fun n => -(n : Int)
    | '+' :: r => (magnitude? r).map Int.ofNat
    | cs => (magnitude? cs).map Int.ofNat
  if -(twoTo 63 : Int) ≤ n ∧ n < (twoTo 63 : Int) then some n else none

/-- Why a literal is no number of its type. -/
inductive Fault where
  | notUnsigned (text : String)
  | notSigned (text : String)
  | negative
  | tooLarge (value : String) (width : Nat) (signed : Bool)
  | notFloat (width : Nat) (text : String)
  | wideInteger (width : Nat)
  | oddFloat (width : Nat)
deriving Repr, DecidableEq

namespace Fault

def message : Fault → String
  | notUnsigned t => "Invalid unsigned integer literal: " ++ t
  | notSigned t => "Invalid signed integer literal: " ++ t
  | negative => "Cannot put a negative number in an unsigned literal"
  | tooLarge v w s =>
    "Integer " ++ v ++ s!" does not fit in a {w}-bit " ++ (if s then "signed" else "unsigned")
      ++ " integer"
  | notFloat w t => s!"Invalid {w}-bit float literal: " ++ t
  | wideInteger w => s!"Unsupported {w}-bit integer literals"
  | oddFloat w => s!"Unsupported {w}-bit float literals"

/-- Is the fault in the text? Then something else may still stand there. -/
def isTextual : Fault → Bool
  | notUnsigned _ | notSigned _ | tooLarge _ _ _ | notFloat _ _ => true
  | negative | wideInteger _ | oddFloat _ => false

end Fault

/-- The words of a bit pattern, lowest first: two if it is wider than one. -/
def wordsOf (width bits : Nat) : List Word :=
  if width > 32 then [bits.toUInt32, (bits / twoTo 32).toUInt32] else [bits.toUInt32]

def isHex : List Char → Bool
  | '0' :: 'x' :: _ => true
  | '0' :: 'X' :: _ => true
  | _ => false

/-- The 64-bit pattern of an integer literal. A hexadecimal literal may use the sign bit, which is
then repeated above it. -/
def integerBits (width : Nat) (isSigned : Bool) (cs : List Char) : Except Fault Nat :=
  let text := String.ofList cs
  let capacity : Nat := twoTo width
  -- what fits without the sign
  let positive : Nat := if isSigned then capacity / 2 else capacity
  if cs.head? = some '-' then
    if !isSigned then .error .negative
    else
      match parseSigned? cs with
      | none => .error (.notSigned text)
      | some n =>
        if n < 0 ∧ -(positive : Int) ≤ n then .ok (Int.toNat (n + (twoTo 64 : Int)))
        else if n = 0 then .ok 0
        else .error (.tooLarge (toString n) width isSigned)
  else
    match parseUnsigned? (twoTo 64) cs with
    | none => .error (.notUnsigned text)
    | some n =>
      if isHex cs then
        if n < capacity then
          .ok (if n ≥ positive then twoTo 64 - capacity + n else n)
        else .error (.tooLarge ("0x" ++ String.ofList (Nat.toDigits 16 n)) width isSigned)
      else if n < positive then .ok n
      else .error (.tooLarge (toString n) width isSigned)

def encodeInteger (width : Nat) (isSigned : Bool) (cs : List Char) : Except Fault (List Word) :=
  if width > 64 then .error (.wideInteger width)
  else (integerBits width isSigned cs).map (wordsOf width)

/-- Digits, perhaps with a point, as a whole number and the count of digits after the point; one
digit at least. -/
def decimalParts? (cs : List Char) : Option (Nat × Nat) :=
  let whole := cs.takeWhile Char.isDigit
  match cs.dropWhile Char.isDigit with
  | [] => (digits? 10 whole).map (·, 0)
  | '.' :: r => if r.all Char.isDigit then (digits? 10 (whole ++ r)).map (·, r.length) else none
  | _ => none

/-- A decimal: digits with a point and a power of ten. -/
def decimal? (cs : List Char) : Option (Nat × Int) :=
  let mantissa := cs.takeWhile fun c => c ≠ 'e' && c ≠ 'E'
  let power : Option Int := match cs.dropWhile fun c => c ≠ 'e' && c ≠ 'E' with
    | [] => some 0
    | _ :: '-' :: r => (digits? 10 r).map fun n => -(n : Int)
    | _ :: '+' :: r => (digits? 10 r).map Int.ofNat
    | _ :: r => (digits? 10 r).map Int.ofNat
  match decimalParts? mantissa, power with
  | some (d, places), some p => some (d, p - places)
  | _, _ => none

/-- A hexadecimal number after its `0x`: digits with a point, then `p` and a power of two. -/
def hexadecimal? (cs : List Char) : Option (Nat × Int) :=
  let mantissa := cs.takeWhile (· ≠ 'p')
  let whole := mantissa.takeWhile (· ≠ '.')
  let places := (mantissa.dropWhile (· ≠ '.')).drop 1
  let power : Option Int := match (cs.dropWhile (· ≠ 'p')).drop 1 with
    | '-' :: r => (digits? 10 r).map fun n => -(n : Int)
    | '+' :: r => (digits? 10 r).map Int.ofNat
    | r => (digits? 10 r).map Int.ofNat
  let digits := whole ++ places
  match (if digits.isEmpty then some 0 else digits? 16 digits), power with
  | some d, some p => if cs.contains 'p' then some (d, p - 4 * (places.length : Int)) else none
  | _, _ => none

/-- The bits of `mantissa * 2 ^ exponent` with digits beyond the format cut off. The exponent one
above the largest is taken as it is written, so that what is no number can be written too. -/
def truncate (f : Number.Format) (negative : Bool) (mantissa : Nat) (exponent : Int) : Nat :=
  if mantissa = 0 then f.signBit negative
  else
    let top : Int := Nat.log2 mantissa
    let field := top + exponent + f.bias
    -- the fraction of a mantissa with `n` bits after the first
    let fraction (n : Nat) : Nat :=
      let bits := if top ≥ n then mantissa / twoTo (top - n).toNat else mantissa * twoTo (n - top).toNat
      bits
    if field > f.fieldMax then f.infinityBits negative
    else if field ≥ 1 then
      f.signBit negative + field.toNat * twoTo f.fractionBits
        + (fraction f.fractionBits - twoTo f.fractionBits)
    else f.signBit negative + fraction f.fractionBits / twoTo (1 - field).toNat

/-- The bits of a floating point literal. Decimals are rounded to the nearest value; those for the
half format are first rounded to a single one and then cut. -/
def floatBits? (width : Nat) (f : Number.Format) (cs : List Char) : Option Nat :=
  let negative := cs.head? = some '-'
  let body := if negative then cs.drop 1 else cs
  match body with
  | '0' :: 'x' :: r => (hexadecimal? r).map fun (m, e) => truncate f negative m e
  | '0' :: 'X' :: r => (hexadecimal? r).map fun (m, e) => truncate f negative m e
  | _ =>
    -- only a number without a minus sign may have a plus sign
    let body := if !negative && body.head? = some '+' then body.drop 1 else body
    match decimal? body with
    | none => none
    | some (d, p) =>
      let bits := if width = 16 then
          match Number.single.read (Number.single.ofDecimal negative d p) with
          | .finite n m e => truncate f n m e
          | _ => f.infinityBits negative
        else f.ofDecimal negative d p
      if f.isInfinite bits then none else some bits

def formatOf? : Nat → Option Number.Format
  | 16 => some Number.half
  | 32 => some Number.single
  | 64 => some Number.double
  | _ => none

def encodeFloat (width : Nat) (cs : List Char) : Except Fault (List Word) :=
  match formatOf? width with
  | none => .error (.oddFloat width)
  | some f =>
    match floatBits? width f cs with
    | some bits => .ok (wordsOf width bits)
    | none => .error (.notFloat width (String.ofList cs))

/-- The words of a literal. -/
def encode : NumberType → List Char → Except Fault (List Word)
  | .unsigned w, cs => encodeInteger w false cs
  | .signed w, cs => encodeInteger w true cs
  | .float w, cs => encodeFloat w cs

/-- `mantissa * 2 ^ exponent` in at most `digits` significant digits, ties to even: the digits and
the power of ten of the last one. -/
def significant (digits mantissa : Nat) (exponent : Int) : Nat × Int :=
  let num := mantissa * twoTo exponent.toNat
  let den := twoTo (-exponent).toNat
  -- the power of ten of the first digit, within one
  let guess : Int := ((Nat.log2 mantissa : Int) + exponent) * 30103 / 100000
  let place (p : Int) : Nat × Int :=
    let last := p - (digits - 1 : Nat)
    (Number.Format.roundDiv (num * tenTo (-last).toNat) (den * tenTo last.toNat), last)
  let below (p : Int) : Bool := num * tenTo (-p).toNat < den * tenTo p.toNat
  let first := if below guess then guess - 1 else if below (guess + 1) then guess else guess + 1
  let (d, last) := place first
  if d = tenTo digits then (d / 10, last + 1) else (d, last)

/-- The exponent of ten of a number in scientific form: a sign and two digits at least. -/
def powerText (p : Int) : String :=
  let digits := toString p.natAbs
  (if p < 0 then "-" else "+") ++ Text.repeatChar '0' (2 - digits.length) ++ digits

/-- A number in at most `digits` significant digits: positional, or scientific if it is very small
or has more digits than that before the point. -/
def general (digits mantissa : Nat) (exponent : Int) : String :=
  if mantissa = 0 then "0"
  else
    let (d, last) := significant digits mantissa exponent
    let (d, last) := Number.stripZeros digits d last
    let power := last + ((Number.digitsOf d).length : Int) - 1
    if -4 ≤ power ∧ power < digits then Number.positional d last
    else
      let (head, p) := Number.scientificParts d last
      head ++ "e" ++ powerText p

/-- Fraction bits as hexadecimal digits without zeros at the end. -/
def fractionText (nibbles fraction : Nat) : String :=
  match nibbles with
  | 0 => ""
  | n + 1 =>
    if fraction % 16 = 0 then fractionText n (fraction / 16)
    else "." ++ Text.hex (n + 1) fraction

/-- A number in hexadecimal, by its fields. -/
def hexadecimal (f : Number.Format) (bits : Nat) : String :=
  let sign := if bits / twoTo (f.exponentBits + f.fractionBits) % 2 = 1 then "-" else ""
  let field := bits / twoTo f.fractionBits % twoTo f.exponentBits
  let fraction := bits % twoTo f.fractionBits
  let nibbles := (f.fractionBits + 3) / 4
  let shift := nibbles * 4 - f.fractionBits
  if field = 0 ∧ fraction = 0 then sign ++ "0x0p+0"
  else
    let (power, fraction) : Int × Nat :=
      if field = 0 then
        let top := Nat.log2 fraction
        ((top : Int) - f.fractionBits + 1 - f.bias,
          (fraction - twoTo top) * twoTo (f.fractionBits - top))
      else ((field : Int) - f.bias, fraction)
    let powerDigits := toString power.natAbs
    sign ++ "0x1" ++ fractionText nibbles (fraction * twoTo shift) ++ "p"
      ++ (if power < 0 then "-" else "+") ++ powerDigits

/-- A floating point number: normal ones in decimal, all others in hexadecimal. -/
def writeFloat (f : Number.Format) (digits bits : Nat) : String :=
  let field := bits / twoTo f.fractionBits % twoTo f.exponentBits
  match f.read bits with
  | .finite negative m e =>
    if field = 0 ∧ m ≠ 0 then hexadecimal f bits
    else (if negative then "-" else "") ++ general digits m e
  | _ => hexadecimal f bits

/-- The text of the words of a number, lowest word first. Numbers of more than two words have
none. -/
def write (t : NumberType) (ws : List Word) : String :=
  match ws with
  | [w] =>
    let n : Nat := w.toNat
    match t with
    | .unsigned _ => toString n
    | .signed _ => toString (if n < twoTo 31 then (n : Int) else (n : Int) - (twoTo 32 : Int))
    | .float 16 => hexadecimal Number.half (n % twoTo 16)
    | .float _ => writeFloat Number.single 9 n
  | [a, b] =>
    let n : Nat := a.toNat + b.toNat * twoTo 32
    match t with
    | .unsigned _ => toString n
    | .signed _ => toString (if n < twoTo 63 then (n : Int) else (n : Int) - (twoTo 64 : Int))
    | .float _ => writeFloat Number.double 17 n
  | _ => ""

end Numeral

end ShaderConvert.Spirv
