import ShaderConvert.Json.Cause
import ShaderConvert.Text.Utf8

/-
Reading JSON text straight into values.

A `Reader` takes characters off the front of the input. When it fails it says why, where it stopped
and, if that is settled, the place to report. Most faults settle their place at once; a value of the
wrong kind is placed only when the reader of the value around it notices (`placed`), after it has
looked for the end of that value.
-/
namespace ShaderConvert.Json

/-- A place to report: what was unread, and how many bytes beyond. -/
structure Place where
  rest : List Char
  ahead : Nat
deriving Repr, DecidableEq

structure Failure where
  cause : Cause
  place : Option Place
  rest : List Char
deriving Repr, DecidableEq

abbrev Reader := StateT (List Char) (Except Failure)

namespace Reader

/-- Fail at the present place. -/
def fail {α : Type} (c : Cause) : Reader α := fun cs => .error ⟨c, some ⟨cs, 0⟩, cs⟩

/-- Fail at the character that comes next. -/
def failNext {α : Type} (c : Cause) : Reader α := fun cs => .error ⟨c, some ⟨cs, 1⟩, cs⟩

/-- Fail a number of bytes further on. -/
def failAhead {α : Type} (n : Nat) (c : Cause) : Reader α := fun cs => .error ⟨c, some ⟨cs, n⟩, cs⟩

/-- Fail without a place. -/
def failUnplaced {α : Type} (c : Cause) : Reader α := fun cs => .error ⟨c, none, cs⟩

/-- A failure that has no place yet gets the one where reading stopped. -/
def Failure.settle (e : Failure) : Failure :=
  match e.place with
  | some _ => e
  | none => { e with place := some ⟨e.rest, 0⟩ }

def placed {α : Type} (r : Reader α) : Reader α := fun cs =>
  match r cs with
  | .ok x => .ok x
  | .error e => .error (Failure.settle e)

def peek : Reader (Option Char) := fun cs => .ok (cs.head?, cs)

def drop : Reader Unit := fun cs => .ok ((), cs.tail)

def isSpace (c : Char) : Bool := c = ' ' || c = '\n' || c = '\t' || c = '\r'

/-- The next character that is no blank. -/
def peekPastSpace : Reader (Option Char) := fun cs =>
  let r := cs.dropWhile isSpace
  .ok (r.head?, r)

/-- The next character that is no blank, which must exist inside a value. -/
def peekValue : Reader Char := do
  match ← peekPastSpace with
  | some c => pure c
  | none => failNext .endInValue

/-- The rest of a word such as `true`. -/
def ident : List Char → Reader Unit
  | [] => pure ()
  | c :: r => do
    match ← peek with
    | none => fail .endInValue
    | some d =>
      drop
      if c = d then ident r else fail .identExpected

end Reader

end ShaderConvert.Json
