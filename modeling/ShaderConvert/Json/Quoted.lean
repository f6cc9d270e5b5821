import ShaderConvert.Json.Reader

/-
Strings and their escapes.

`stringBody` reads the characters of a string. `skipString` passes over one, and asks less of it: a
code unit need not be paired.
-/
namespace ShaderConvert.Json.Reader

def hexValue? (c : Char) : Option Nat :=
  let n := c.toNat
  if 0x30 ≤ n ∧ n ≤ 0x39 then some (n - 0x30)
  else if 0x61 ≤ n ∧ n ≤ 0x66 then some (n - 0x61 + 10)
  else if 0x41 ≤ n ∧ n ≤ 0x46 then some (n - 0x41 + 10)
  else none

/-- Four hexadecimal digits; the four are counted in bytes. -/
def fourHex : Reader Nat := fun cs =>
  if Utf8.size (cs.take 4) < 4 then .error ⟨.endInString, some ⟨[], 0⟩, []⟩
  else
    let digits := (cs.take 4).filterMap hexValue?
    if digits.length = 4 then .ok (digits.foldl (fun n d => n * 16 + d) 0, cs.drop 4)
    else failAhead 4 .badEscape cs

def simpleEscape? (c : Char) : Option Char :=
  if c = '"' then some '"'
  else if c = '\\' then some '\\'
  else if c = '/' then some '/'
  else if c = 'b' then some '\x08'
  else if c = 'f' then some '\x0c'
  else if c = 'n' then some '\n'
  else if c = 'r' then some '\r'
  else if c = 't' then some '\t'
  else none

/-- The next character of an escape, which must exist. -/
def inString : Reader Char := do
  match ← peek with
  | some c => pure c
  | none => fail .endInString

/-- The character of an escape whose backslash and `u` have been read: code units above D7FF come
in pairs. -/
def unicodeEscape : Reader Char := do
  let n ← fourHex
  if 0xDC00 ≤ n ∧ n ≤ 0xDFFF then fail .loneSurrogate
  else if n < 0xD800 ∨ n > 0xDBFF then pure (Char.ofNat n)
  else
    let c ← inString
    drop
    if c ≠ '\\' then fail .hexEscapeCut
    else
      let c ← inString
      drop
      if c ≠ 'u' then fail .hexEscapeCut
      else
        let m ← fourHex
        if m < 0xDC00 ∨ m > 0xDFFF then fail .loneSurrogate
        else pure (Char.ofNat ((n - 0xD800) * 0x400 + (m - 0xDC00) + 0x10000))

/-- The character that an escape stands for, after its backslash. -/
def escape : Reader Char := do
  let c ← inString
  drop
  match simpleEscape? c with
  | some d => pure d
  | none => if c = 'u' then unicodeEscape else fail .badEscape

/-- The characters up to the closing quote; one unit of `fuel` per character. -/
def stringTail (fuel : Nat) (acc : List Char) : Reader String :=
  match fuel with
  | 0 => fail .endInString
  | fuel + 1 => do
    match ← peek with
    | none => fail .endInString
    | some c =>
      drop
      if c = '"' then pure (String.ofList acc.reverse)
      else if c = '\\' then
        let d ← escape
        stringTail fuel (d :: acc)
      else if c.toNat < 0x20 then fail .controlCharacter
      else stringTail fuel (c :: acc)

/-- A string whose opening quote has been read. -/
def stringBody : Reader String := fun cs => stringTail (cs.length + 1) [] cs

/-- Pass over an escape: its code unit need not be paired. -/
def skipEscape : Reader Unit := do
  let c ← inString
  drop
  if (simpleEscape? c).isSome then pure ()
  else if c = 'u' then
    let _ ← fourHex
    pure ()
  else fail .badEscape

def skipStringTail (fuel : Nat) : Reader Unit :=
  match fuel with
  | 0 => fail .endInString
  | fuel + 1 => do
    match ← peek with
    | none => fail .endInString
    | some c =>
      if c = '"' then drop
      else if c = '\\' then
        drop
        skipEscape
        skipStringTail fuel
      else if c.toNat < 0x20 then fail .controlCharacter
      else
        drop
        skipStringTail fuel

/-- Pass over a string whose opening quote has been read. -/
def skipString : Reader Unit := fun cs => skipStringTail (cs.length + 1) cs

end ShaderConvert.Json.Reader
