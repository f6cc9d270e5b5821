import ShaderConvert.Number.Binary
import ShaderConvert.Number.Power

/-
Numbers in source texts.

A number is decimal or, after `0x`, hexadecimal; a point or an exponent makes it a floating point
number, and a suffix fixes its type. A number without a suffix is abstract.
-/
namespace ShaderConvert.Wgsl

inductive Numeral where
  | abstractInt (value : Int)
  | abstractFloat (bits : Nat)
  | i32 (value : Int)
  | u32 (value : Nat)
  | i64 (value : Int)
  | u64 (value : Nat)
  | f32 (bits : Nat)
  | f64 (bits : Nat)
deriving Repr, DecidableEq, Inhabited

inductive NumeralFault where
  | invalid
  | notRepresentable
  | unimplementedHalf
deriving Repr, DecidableEq, Inhabited

def NumeralFault.message : NumeralFault → String
  | invalid => "invalid numeric literal format"
  | notRepresentable => "numeric literal not representable by target type"
  | unimplementedHalf => "unimplemented f16 type"

namespace Numeral

open ShaderConvert.Number

inductive Suffix where
  | i32
  | u32
  | i64
  | u64
  | f16
  | f32
  | f64
deriving Repr, DecidableEq, Inhabited

/-- The suffix at the start of a text, if it is one of those allowed, and the rest. -/
def takeSuffix (allowed : Suffix → Bool) (cs : List Char) : Option Suffix × List Char :=
  let found : Option (Suffix × List Char) :=
    match cs with
    | 'i' :: r => some (.i32, r)
    | 'u' :: r => some (.u32, r)
    | 'h' :: r => some (.f16, r)
    | 'f' :: r => some (.f32, r)
    | 'l' :: 'i' :: r => some (.i64, r)
    | 'l' :: 'u' :: r => some (.u64, r)
    | 'l' :: 'f' :: r => some (.f64, r)
    | _ => none
  match found with
  | some (s, r) => if allowed s then (some s, r) else (none, cs)
  | none => (none, cs)

def Suffix.isFloat : Suffix → Bool
  | f16 | f32 | f64 => true
  | _ => false

def Suffix.isInteger (s : Suffix) : Bool := !s.isFloat

def isHexDigit (c : Char) : Bool := c.isDigit || ('a' ≤ c && c ≤ 'f') || ('A' ≤ c && c ≤ 'F')

def hexDigitValue (c : Char) : Nat :=
  if c.isDigit then c.toNat - 48
  else if 'a' ≤ c then c.toNat - 87
  else c.toNat - 55

def natOfDigits (base : Nat) (cs : List Char) : Nat :=
  cs.foldl (fun n c => base * n + hexDigitValue c) 0

/-- An exponent of ten or two after its mark, and the rest; `none` if there are no digits. -/
def takeExponent (cs : List Char) : Option (Int × List Char) :=
  let (negative, cs) : Bool × List Char :=
    match cs with
    | '+' :: r => (false, r)
    | '-' :: r => (true, r)
    | r => (false, r)
  match cs.takeWhile Char.isDigit with
  | [] => none
  | ds =>
    let n : Int := natOfDigits 10 ds
    some (if negative then -n else n, cs.dropWhile Char.isDigit)

/-- A whole number as a value of the suffix's type. -/
def ofInteger (n : Nat) : Option Suffix → Except NumeralFault Numeral
  | none => bounded (twoTo 63) (abstractInt n)
  | some .i32 => bounded (twoTo 31) (i32 n)
  | some .u32 => bounded (twoTo 32) (u32 n)
  | some .i64 => bounded (twoTo 63) (i64 n)
  | some .u64 => bounded (twoTo 64) (u64 n)
  | some _ => .error .invalid
where
  bounded (limit : Nat) (v : Numeral) : Except NumeralFault Numeral :=
    if n < limit then .ok v else .error .notRepresentable

/-- A decimal number as a floating point value; it is rounded, but must not become infinite. -/
def ofDecimal (digits : Nat) (exponent : Int) (suffix : Option Suffix) :
    Except NumeralFault Numeral :=
  let finite (f : Format) (make : Nat → Numeral) : Except NumeralFault Numeral :=
    let bits := f.ofDecimal false digits exponent
    if f.isInfinite bits then .error .notRepresentable else .ok (make bits)
  match suffix with
  | some .f16 => .error .unimplementedHalf
  | some .f32 => finite single f32
  | some .f64 => finite double f64
  | _ => finite double abstractFloat

/-- A hexadecimal number `digits * 2 ^ exponent` as a floating point value, which has to be exact. -/
def ofHex (digits : Nat) (exponent : Int) (suffix : Option Suffix) : Except NumeralFault Numeral :=
  let exact (f : Format) (make : Nat → Numeral) : Except NumeralFault Numeral :=
    if exponent > 4000 ∨ exponent < -5000 then
      if digits = 0 then .ok (make 0) else .error .notRepresentable
    else
      let num := digits * twoTo exponent.toNat
      let den := twoTo (-exponent).toNat
      let bits := f.round false num den
      match f.read bits with
      | .finite _ m e =>
        if m * twoTo e.toNat * den = num * twoTo (-e).toNat then .ok (make bits)
        else .error .notRepresentable
      | _ => .error .notRepresentable
  match suffix with
  | some .f16 => .error .unimplementedHalf
  | some .f32 => exact single f32
  | some .f64 => exact double f64
  | _ => exact double abstractFloat

abbrev Taken := Except NumeralFault Numeral × List Char

/-- A hexadecimal number after `0x`. -/
def takeHex (cs : List Char) : Taken :=
  let whole := cs.takeWhile isHexDigit
  let rest := cs.dropWhile isHexDigit
  match rest with
  | '.' :: rest =>
    let part := rest.takeWhile isHexDigit
    let rest := rest.dropWhile isHexDigit
    let digits := natOfDigits 16 (whole ++ part)
    let scale : Int := -4 * (part.length : Int)
    if whole.isEmpty && part.isEmpty then (.error .invalid, rest)
    else
      match rest with
      | 'p' :: r | 'P' :: r =>
        match takeExponent r with
        | none => (.error .invalid, afterSign r)
        | some (x, r) =>
          let (suffix, r) := takeSuffix Suffix.isFloat r
          (ofHex digits (scale + x) suffix, r)
      | _ => (ofHex digits scale none, rest)
  | _ =>
    if whole.isEmpty then (.error .invalid, rest)
    else
      match rest with
      | 'p' :: r | 'P' :: r =>
        match takeExponent r with
        | none => (.error .invalid, afterSign r)
        | some (x, r) =>
          let (suffix, r) := takeSuffix Suffix.isFloat r
          (ofHex (natOfDigits 16 whole) x suffix, r)
      | _ =>
        let (suffix, r) := takeSuffix Suffix.isInteger rest
        (ofInteger (natOfDigits 16 whole) suffix, r)
where
  afterSign : List Char → List Char
    | '+' :: r | '-' :: r => r
    | r => r

/-- A decimal number. -/
def takeDecimal (cs : List Char) : Taken :=
  let whole := cs.takeWhile Char.isDigit
  let rest := cs.dropWhile Char.isDigit
  let withExponent (digits : Nat) (scale : Int) (rest : List Char) : Taken :=
    match takeExponent rest with
    | none => (.error .invalid, takeHex.afterSign rest)
    | some (x, r) =>
      let (suffix, r) := takeSuffix Suffix.isFloat r
      (ofDecimal digits (scale + x) suffix, r)
  match rest with
  | '.' :: rest =>
    let part := rest.takeWhile Char.isDigit
    let rest := rest.dropWhile Char.isDigit
    let digits := natOfDigits 10 (whole ++ part)
    let scale : Int := -(part.length : Int)
    if whole.isEmpty && part.isEmpty then (.error .invalid, rest)
    else
      match rest with
      | 'e' :: r | 'E' :: r => withExponent digits scale r
      | _ =>
        let (suffix, r) := takeSuffix Suffix.isFloat rest
        (ofDecimal digits scale suffix, r)
  | 'e' :: r | 'E' :: r =>
    if whole.isEmpty then (.error .invalid, rest) else withExponent (natOfDigits 10 whole) 0 r
  | _ =>
    if whole.isEmpty then (.error .invalid, rest)
    -- a number of several digits does not start with zero
    else if whole.length > 1 && whole.head? == some '0' then (.error .invalid, rest)
    else
      let (suffix, r) := takeSuffix (fun _ => true) rest
      let n := natOfDigits 10 whole
      match suffix with
      | some s => if s.isFloat then (ofDecimal n 0 suffix, r) else (ofInteger n suffix, r)
      | none => (ofInteger n none, r)

/-- The number at the start of a text, and the rest. -/
def take : List Char → Taken
  | '0' :: 'x' :: r | '0' :: 'X' :: r => takeHex r
  | cs => takeDecimal cs

end Numeral

end ShaderConvert.Wgsl
