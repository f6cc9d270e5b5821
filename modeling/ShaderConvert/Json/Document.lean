import ShaderConvert.Json.Record

/-
Whole texts.

`run` reads a text with any reader and turns a failure into its message; `any` accepts every value.
-/
namespace ShaderConvert.Json.Reader

/-- How deep lists and objects may lie in each other. -/
def depthLimit : Nat := 128

mutual

/-- Any value at all, of limited depth. -/
def anyValue (fuel depth : Nat) : Reader Unit :=
  match fuel with
  | 0 => pure ()
  | fuel + 1 => placed do
    let c ← peekValue
    if c = 'n' then
      drop
      ident "ull".toList
    else if c = 't' then
      drop
      ident "rue".toList
    else if c = 'f' then
      drop
      ident "alse".toList
    else if c = '-' then
      drop
      let _ ← numeral true
    else if isDigit c then
      let _ ← numeral false
    else if c = '"' then
      drop
      let _ ← stringBody
    else if c = '[' then
      if depth ≤ 1 then failNext .tooDeep
      drop
      enclosed (anyElements fuel (depth - 1) true) endList
    else if c = '\x7b' then
      if depth ≤ 1 then failNext .tooDeep
      drop
      enclosed (anyMembers fuel (depth - 1) true) endObject
    else failNext .valueExpected
termination_by (fuel, 0)

def anyElements (fuel depth : Nat) (first : Bool) : Reader Unit :=
  match fuel with
  | 0 => pure ()
  | fuel + 1 => do
    if ← nextElement first then
      anyValue (fuel + 1) depth
      anyElements fuel depth false
termination_by (fuel, 1)

def anyMembers (fuel depth : Nat) (first : Bool) : Reader Unit :=
  match fuel with
  | 0 => pure ()
  | fuel + 1 => do
    if ← nextMember first then
      drop
      let _ ← stringBody
      colon
      anyValue (fuel + 1) depth
      anyMembers fuel depth false
termination_by (fuel, 1)

end

/-- Any value of a text. -/
def any : Reader Unit := fun cs => anyValue (cs.length + 1) depthLimit cs

/-- Line and column of a byte index: the line after the line feeds before it, the column from the
last of them. -/
def lineAndColumn (bytes : List UInt8) : Nat × Nat :=
  bytes.foldl (fun p (b : UInt8) => if b = 10 then (p.1 + 1, 0) else (p.1, p.2 + 1)) (1, 0)

/-- The failure as it is reported for the text `source`. -/
def Failure.message (source : String) (e : Failure) : String :=
  match e.place with
  | none => e.cause.describe
  | some p =>
    let read := Utf8.size source.toList - Utf8.size p.rest
    let (line, column) := lineAndColumn ((Utf8.encode source).take (read + p.ahead))
    e.cause.describe ++ s!" at line {line} column {column}"

/-- Read a whole text, or say what is wrong with it. -/
def run {α : Type} (r : Reader α) (source : String) : Except String α :=
  let whole : Reader α := do
    let a ← r
    match ← peekPastSpace with
    | some _ => failNext .trailingCharacters
    | none => pure a
  match whole source.toList with
  | .ok (a, _) => .ok a
  | .error e => .error (Failure.message source e)

end ShaderConvert.Json.Reader
