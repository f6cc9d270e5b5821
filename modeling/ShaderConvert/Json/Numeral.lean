import ShaderConvert.Json.Reader
import ShaderConvert.Number.Binary
import ShaderConvert.Number.Power

/-
Numbers.

`numeral` reads one: whole numbers of 64 bits stay exact, all others become floating point numbers.
`skipNumber` passes over one by its grammar alone.
-/
namespace ShaderConvert.Json.Reader

/-- A number as the grammar gives it: whole numbers of 64 bits stay exact. -/
inductive Numeral where
  | natural (n : Nat)
  | negative (n : Nat)
  | float (x : Float)

/-- A floating point number as it is shown: positional from four places after the point up to
sixteen digits before it, else with an exponent of at least two digits. -/
def showFloat (x : Float) : String :=
  let bits := x.toBits.toNat
  match Number.double.read bits with
  | .infinite n => if n then "-inf" else "inf"
  | .notANumber _ _ => "NaN"
  | .finite n m _ =>
    let sign := if n then "-" else ""
    if m = 0 then sign ++ "0.0"
    else
      let (d, e) := Number.double.shortest (bits % twoTo 63)
      let (mantissa, power) := Number.scientificParts d e
      if -5 ≤ power ∧ power < 16 then
        sign ++ Number.positional d e ++ (if e ≥ 0 then ".0" else "")
      else
        let p := toString power.natAbs
        sign ++ mantissa ++ (if power < 0 then "e-" else "e+")
          ++ (if p.length < 2 then "0" ++ p else p)

def Numeral.found : Numeral → Found
  | .natural n => .integer (toString n)
  | .negative n => .integer ("-" ++ toString n)
  | .float x => .float (showFloat x)

def isDigit (c : Char) : Bool := '0' ≤ c && c ≤ '9'

def digitValue (c : Char) : Nat := c.toNat - 0x30

/-- The digits that come next. -/
def digits : Reader (List Char) := fun cs => .ok (cs.takeWhile isDigit, cs.dropWhile isDigit)

def limit64 : Nat := twoTo 64

/-- The longest front of digits that keeps a number in 64 bits, and the others. -/
def gather (n : Nat) : List Char → Nat × List Char
  | [] => (n, [])
  | c :: r => if n * 10 + digitValue c < limit64 then gather (n * 10 + digitValue c) r else (n, c :: r)

/-- `n * 10 ^ e` in steps of at most 308; a result that is no number of the format fails. -/
def scaleDown (fuel : Nat) (x : Float) (e : Nat) : Float :=
  match fuel with
  | 0 => x
  | fuel + 1 =>
    if e ≤ 308 then x / Float.ofScientific 1 false e
    else if x == 0 then x
    else scaleDown fuel (x / Float.ofScientific 1 false 308) (e - 308)

def scaled (negative : Bool) (n : Nat) (e : Int) : Reader Float := do
  let x := Float.ofNat n
  let y ←
    if e ≥ 0 then
      if e ≤ 308 then
        let y := x * Float.ofScientific 1 false e.toNat
        if y.isInf then fail .numberOutOfRange else pure y
      else if x == 0 then pure x
      else fail .numberOutOfRange
    else pure (scaleDown ((-e).toNat / 308 + 2) x (-e).toNat)
  pure (if negative then -y else y)

/-- The exponent part of a number, its mark not yet read. -/
def exponent (negative : Bool) (n : Nat) (start : Int) : Reader Float := do
  drop
  let c ← peek
  let down := c = some '-'
  if c = some '+' ∨ c = some '-' then drop
  match ← peek with
  | none => fail .endInValue
  | some d =>
    if !isDigit d then
      drop
      fail .badNumber
    else
      let ds ← digits
      let e := ds.foldl (fun e d => e * 10 + digitValue d) 0
      if e > 2147483647 then
        if n ≠ 0 ∧ !down then fail .numberOutOfRange else pure (if negative then -0.0 else 0.0)
      else scaled negative n (if down then start - e else start + e)

/-- The places after the point, which is not yet read. -/
def fraction (negative : Bool) (n : Nat) (start : Int) : Reader Float := do
  drop
  let ds ← digits
  if ds.isEmpty then
    match ← peek with
    | some _ => failNext .badNumber
    | none => failNext .endInValue
  else
    let (m, left) := gather n ds
    let e := start - ((ds.length - left.length : Nat) : Int)
    let c ← peek
    if c = some 'e' ∨ c = some 'E' then exponent negative m e else scaled negative m e

/-- A number whose sign has been read. -/
def numeral (negative : Bool) : Reader Numeral := do
  match ← peek with
  | none => fail .endInValue
  | some c =>
    if !isDigit c then
      drop
      fail .badNumber
    else if c = '0' then
      drop
      match ← peek with
      | some d => if isDigit d then failNext .badNumber else finish 0 0
      | none => finish 0 0
    else
      let ds ← digits
      let (n, left) := gather 0 ds
      finish n left.length
where
  finish (n : Nat) (extra : Nat) : Reader Numeral := do
    let c ← peek
    if c = some '.' then return .float (← fraction negative n extra)
    else if c = some 'e' ∨ c = some 'E' then return .float (← exponent negative n extra)
    else if extra ≠ 0 then return .float (← scaled negative n extra)
    else if !negative then return .natural n
    else if n = 0 ∨ n > twoTo 63 then return .float (-(Float.ofNat n))
    else return .negative n

/-- Pass over digits, of which there must be one. -/
def skipDigits : Reader Unit := do
  match ← peek with
  | some c =>
    if isDigit c then
      let _ ← digits
    else
      drop
      fail .badNumber
  | none => fail .badNumber

/-- Pass over the digits before the point: a zero stands alone. -/
def skipInteger : Reader Unit := do
  if (← peek) = some '0' then
    drop
    if let some d ← peek then
      if isDigit d then failNext .badNumber
  else skipDigits

/-- Pass over the point and the digits behind it, if there are any. -/
def skipFraction : Reader Unit := do
  if (← peek) = some '.' then
    drop
    let ds ← digits
    if ds.isEmpty then failNext .badNumber

/-- Pass over the exponent, if there is one. -/
def skipExponent : Reader Unit := do
  let c ← peek
  if c = some 'e' ∨ c = some 'E' then
    drop
    let s ← peek
    if s = some '+' ∨ s = some '-' then drop
    skipDigits

/-- Pass over a number whose sign has been read. -/
def skipNumber : Reader Unit := do
  skipInteger
  skipFraction
  skipExponent

end ShaderConvert.Json.Reader
