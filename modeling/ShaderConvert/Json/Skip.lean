import ShaderConvert.Json.Numeral
import ShaderConvert.Json.Quoted

/-
Values that are passed over.

`skip` needs no memory of what it passes but the objects and lists that are open.
-/
namespace ShaderConvert.Json.Reader

/-- An object or list that is open while passing over a value. -/
inductive Frame where
  | list
  | object
deriving Repr, DecidableEq

/-- A key and its colon, passed over. -/
def skipKey : Reader Unit := do
  match ← peekPastSpace with
  | some '"' => drop
  | some _ => failNext .keyNotString
  | none => failNext .endInObject
  skipString
  match ← peekPastSpace with
  | some ':' => drop
  | some _ => failNext .colonExpected
  | none => failNext .endInObject

/-- Close frames while their closing signs come, up to the place where the next value starts;
`none` when no frame is open any more. `comma` says whether a value stands before. -/
def skipClose (fuel : Nat) (comma : Bool) (frames : List Frame) : Reader (Option (List Frame)) :=
  match fuel with
  | 0 => pure none
  | fuel + 1 =>
    match frames with
    | [] => pure none
    | f :: outer => do
      match ← peekPastSpace with
      | none => failNext (if f = .list then .endInList else .endInObject)
      | some c =>
        if c = ',' ∧ comma then
          drop
          pure (some frames)
        else if (c = ']' ∧ f = .list) ∨ (c = '\x7d' ∧ f = .object) then
          drop
          skipClose fuel true outer
        else if comma then
          failNext (if f = .list then .commaOrBracketExpected else .commaOrBraceExpected)
        else pure (some frames)

/-- Pass over the front of a value: a word, a number or a string as a whole, or the sign that opens a
list or an object. Says whether a value has ended, and what is open then. -/
def skipFront (frames : List Frame) : Reader (Bool × List Frame) := do
  let c ← peekValue
  if c = 'n' then
    drop
    ident "ull".toList
    pure (true, frames)
  else if c = 't' then
    drop
    ident "rue".toList
    pure (true, frames)
  else if c = 'f' then
    drop
    ident "alse".toList
    pure (true, frames)
  else if c = '-' then
    drop
    skipNumber
    pure (true, frames)
  else if isDigit c then
    skipNumber
    pure (true, frames)
  else if c = '"' then
    drop
    skipString
    pure (true, frames)
  else if c = '[' then
    drop
    pure (false, .list :: frames)
  else if c = '\x7b' then
    drop
    pure (false, .object :: frames)
  else failNext .valueExpected

/-- Pass over a value inside the open frames. -/
def skipWithin (fuel : Nat) (frames : List Frame) : Reader Unit :=
  match fuel with
  | 0 => pure ()
  | fuel + 1 => do
    let (comma, frames) ← skipFront frames
    match ← skipClose (frames.length + 1) comma frames with
    | none => pure ()
    | some frames =>
      if frames.head? = some .object then skipKey
      skipWithin fuel frames

/-- Pass over any value, however deep. -/
def skip : Reader Unit := fun cs => skipWithin (cs.length + 1) [] cs

end ShaderConvert.Json.Reader
