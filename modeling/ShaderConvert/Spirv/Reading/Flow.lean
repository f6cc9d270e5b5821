import ShaderConvert.Spirv.Reading.Variable

/-
From blocks and branches to nested statements.

The blocks of a function are collected into bodies: a body is what runs on one side of a branch, in a
loop, after it, or in a case. A block that is merely jumped to goes on with the body that jumps; the
block where a construct ends goes on with the body that the construct stands in. `assemble` puts the
bodies together.
-/
namespace ShaderConvert.Spirv.Reading

open Ir

/-- What a body consists of; bodies refer to each other by their places. -/
inductive Fragment where
  | block (label : Nat)
  | branch (condition : ExprId) (accept reject : Nat)
  | loop (body continuing : Nat) (breakIf : Option ExprId)
  | switch (selector : ExprId) (cases : List (Int × Nat)) (default : Nat)
  | exit
  | next
deriving Repr, Inhabited

structure Body where
  parent : Nat
  fragments : List Fragment := []
deriving Repr, Inhabited

/-- What a jump to a block means when the block ends a construct or goes on with a loop. -/
inductive Merge where
  | loopEnd
  | loopNext
  | selectionEnd
  | switchEnd
deriving Repr, DecidableEq

/-- The end of a selection is reached by falling out of it. -/
def Merge.fragments : Merge → List Fragment
  | loopEnd | switchEnd => [.exit]
  | loopNext => [.next]
  | selectionEnd => []

/-- Statements with their places. -/
abbrev Statements := List (Statement × Span)

/-- Is `ancestor` the body itself or one that it stands in? The first argument bounds how deep bodies
stand in each other. -/
def isWithin (bodies : Array Body) : Nat → Nat → Nat → Bool
  | 0, _, _ => false
  | depth + 1, body, ancestor =>
    if body = ancestor then true
    else if body = 0 then false
    else isWithin bodies depth (bodies[body]?.getD default).parent ancestor

/-- Does control never come out behind a statement? -/
def isTerminator : Statement → Bool
  | .exit | .next | .ret _ | .kill => true
  | _ => false

/-- A case without an end of its own goes on with the next one. -/
def caseOf (value : SwitchValue) (body : Statements) : SwitchCase :=
  .mk value (.mk body) ((body.getLast?.map fun (s, _) => !isTerminator s).getD true)

/-- The statements of a body. Each block is used once. The first argument bounds how deep bodies
stand in each other. -/
def assemble (bodies : Array Body) : Nat → Nat → StateM (Table Statements) Statements
  | 0, _ => return []
  | depth + 1, body => do
    let parts ← (bodies[body]?.getD default).fragments.mapM fun f =>
      match f with
      | .block label => modifyGet fun blocks =>
        ((blocks.lookup label).getD [], blocks.filter (·.1 ≠ label))
      | .branch condition accept reject => do
        let a ← assemble bodies depth accept
        let r ← assemble bodies depth reject
        return [(.branch condition (.mk a) (.mk r), .undefined)]
      | .loop inner continuing breakIf => do
        let b ← assemble bodies depth inner
        let c ← assemble bodies depth continuing
        return [(.loop (.mk b) (.mk c) breakIf, .undefined)]
      | .switch selector cases default => do
        let cs ← cases.mapM fun (value, k) => do
          return caseOf (.i32 value) (← assemble bodies depth k)
        let d ← assemble bodies depth default
        return [(.switch selector (cs ++ [.mk .default (.mk d) false]), .undefined)]
      | .exit => return [(.exit, .undefined)]
      | .next => return [(.next, .undefined)]
    return parts.flatten

end ShaderConvert.Spirv.Reading
