import ShaderConvert.Json.Numeral
import ShaderConvert.Json.Quoted

/-
Single values and lists.

Each reader names the type that it expects, for the message about a value of another kind.
-/
namespace ShaderConvert.Json.Reader

/-- Fail because the value that comes next is of another kind than `expected`. -/
def mismatch {α : Type} (expected : String) : Reader α := do
  match ← peek with
  | some 'n' =>
    drop
    ident "ull".toList
    fail (.wrongType .null expected)
  | some 't' =>
    drop
    ident "rue".toList
    fail (.wrongType (.boolean true) expected)
  | some 'f' =>
    drop
    ident "alse".toList
    fail (.wrongType (.boolean false) expected)
  | some '-' =>
    drop
    let n ← numeral true
    fail (.wrongType n.found expected)
  | some '"' =>
    drop
    let s ← stringBody
    fail (.wrongType (.string s) expected)
  | some '[' => fail (.wrongType .sequence expected)
  | some '\x7b' => fail (.wrongType .map expected)
  | some c =>
    if isDigit c then
      let n ← numeral false
      fail (.wrongType n.found expected)
    else failNext .valueExpected
  | none => failNext .valueExpected

def boolean : Reader Bool := do
  match ← peekValue with
  | 't' =>
    drop
    ident "rue".toList
    pure true
  | 'f' =>
    drop
    ident "alse".toList
    pure false
  | _ => mismatch "a boolean"

def string : Reader String := do
  match ← peekValue with
  | '"' =>
    drop
    stringBody
  | _ => mismatch "a string"

/-- A whole number below `limit`; `expected` names its type. -/
def natural (limit : Nat) (expected : String) : Reader Nat := do
  let c ← peekValue
  if c = '-' ∨ isDigit c then
    let n ← if c = '-' then do drop; numeral true else numeral false
    match n with
    | .natural k => if k < limit then pure k else fail (.wrongValue n.found expected)
    | .negative _ => fail (.wrongValue n.found expected)
    | .float _ => fail (.wrongType n.found expected)
  else mismatch expected

/-- The value of a variant without contents. -/
def unit : Reader Unit := do
  match ← peekValue with
  | 'n' =>
    drop
    ident "ull".toList
  | _ => mismatch "unit"

/-- Nothing for `null`, else a value. -/
def optional {α : Type} (r : Reader α) : Reader (Option α) := do
  match ← peekPastSpace with
  | some 'n' =>
    drop
    ident "ull".toList
    pure none
  | _ => some <$> r

/-- Is there another element of a list? Reads the comma before it. -/
def nextElement (first : Bool) : Reader Bool := do
  match ← peekPastSpace with
  | none => failNext .endInList
  | some c =>
    if c = ']' then pure false
    else if first then pure true
    else if c = ',' then
      drop
      match ← peekPastSpace with
      | some ']' => failNext .trailingComma
      | some _ => pure true
      | none => failNext .endInValue
    else failNext .commaOrBracketExpected

/-- The closing bracket of a list. -/
def endList : Reader Unit := do
  match ← peekPastSpace with
  | some ']' => drop
  | some ',' =>
    drop
    match ← peekPastSpace with
    | some ']' => failNext .trailingComma
    | _ => failNext .trailingCharacters
  | some _ => failNext .trailingCharacters
  | none => failNext .endInList

/-- Is there another member of an object? Reads the comma before it. -/
def nextMember (first : Bool) : Reader Bool := do
  match ← peekPastSpace with
  | none => failNext .endInObject
  | some c =>
    if c = '\x7d' then pure false
    else if first then
      if c = '"' then pure true else failNext .keyNotString
    else if c = ',' then
      drop
      match ← peekPastSpace with
      | some '"' => pure true
      | some '\x7d' => failNext .trailingComma
      | some _ => failNext .keyNotString
      | none => failNext .endInValue
    else failNext .commaOrBraceExpected

/-- The closing brace of an object. -/
def endObject : Reader Unit := do
  match ← peekPastSpace with
  | some '\x7d' => drop
  | some ',' => failNext .trailingComma
  | some _ => failNext .trailingCharacters
  | none => failNext .endInObject

def colon : Reader Unit := do
  match ← peekPastSpace with
  | some ':' => drop
  | some _ => failNext .colonExpected
  | none => failNext .endInObject

/-- Read the contents, then the end, which is looked for even after a failure: a failure without a
place is reported behind it. -/
def enclosed {α : Type} (contents : Reader α) (finish : Reader Unit) : Reader α := fun cs =>
  match contents cs with
  | .ok (a, cs) =>
    match finish cs with
    | .ok (_, cs) => .ok (a, cs)
    | .error e => .error e
  | .error e =>
    match finish e.rest with
    | .ok (_, cs) => .error { e with rest := cs }
    | .error f => .error { e with rest := f.rest }

/-- The elements of a list; one unit of `fuel` per element. -/
def elements {α : Type} (item : Reader α) (fuel : Nat) (first : Bool) : Reader (List α) :=
  match fuel with
  | 0 => pure []
  | fuel + 1 => do
    if ← nextElement first then
      let a ← item
      let r ← elements item fuel false
      pure (a :: r)
    else pure []

/-- A list of values of one kind. -/
def list {α : Type} (item : Reader α) : Reader (List α) := placed do
  match ← peekValue with
  | '[' =>
    drop
    enclosed (fun cs => elements item (cs.length + 1) true cs) endList
  | _ => mismatch "a sequence"

/-- The two elements of a pair. -/
def pairElements {α : Type} (item : Reader α) : Reader (α × α) := do
  if !(← nextElement true) then failUnplaced (.wrongLength 0 "a tuple of size 2")
  let a ← item
  if !(← nextElement false) then failUnplaced (.wrongLength 1 "a tuple of size 2")
  let b ← item
  pure (a, b)

/-- Two values of one kind in a list. -/
def pair {α : Type} (item : Reader α) : Reader (α × α) := placed do
  match ← peekValue with
  | '[' =>
    drop
    enclosed (pairElements item) endList
  | _ => mismatch "a tuple of size 2"

end ShaderConvert.Json.Reader
