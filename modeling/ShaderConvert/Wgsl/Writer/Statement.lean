import ShaderConvert.Wgsl.Writer.Expression

/-
Statements as lines of source text.

An expression that is evaluated gets a name of its own if the program gave it one, or if its text
would be repeated or would move past something that it depends on (`isShared`); all others are
written where they are used.
-/
namespace ShaderConvert.Wgsl.Writer

open Ir

/-- What writing a function has come to: the identifiers in use and the named expressions. -/
structure Progress where
  identifiers : Identifiers
  named : Named := []

abbrev Write := StateT Progress (Except Fault)

/-- A line at a level of nesting. -/
def line (level : Nat) (text : String) : String := Text.repeatChar ' ' (4 * level) ++ text

/-- From how many uses on an expression is named; a part of something never is. -/
def usesToShare : Expression → Option Nat
  | .access _ _ | .accessIndex _ _ => none
  | .imageSample _ _ _ _ _ _ | .derivative _ _ _ | .load _ => some 1
  | _ => some 2

def isShared (c : Frame) (e : ExprId) : Bool :=
  let x := c.function.expressions.get e
  match x with
  | .imageSample _ _ _ _ _ _ => true
  | _ => ((usesToShare x).map fun n => decide (n ≤ c.info.referencesTo e)).getD false

def sharedName (e : ExprId) : String := s!"_e{e}"

namespace Write

def text (c : Frame) (form : Form) (e : ExprId) : Write String := fun p => do
  return (← c.expressionText p.named form e, p)

def value (c : Frame) (e : ExprId) : Write String := text c .value e

def fresh (label : String) : Write String := fun p =>
  let (name, identifiers) := Identifiers.fresh label p.identifiers
  .ok (name, { p with identifiers })

def setName (e : ExprId) (name : String) : Write Unit :=
  modify fun p => { p with named := (e, name) :: p.named }

/-- The start of a line that names an expression. -/
def declaration (c : Frame) (e : ExprId) (name : String) : String :=
  let type := if c.scope.explicitTypes then ": " ++ c.scope.resolvedText (c.info.typeOf e) else ""
  "let " ++ name ++ type ++ " = "

/-- The name that an expression gets when it is evaluated. -/
def nameFor (c : Frame) (e : ExprId) : Write (Option String) :=
  match c.function.namedExpressions.lookup e with
  | some label => some <$> fresh label
  | none => pure (if isShared c e then some (sharedName e) else none)

def evaluation (c : Frame) (level : Nat) (e : ExprId) : Write (List String) := do
  match ← nameFor c e with
  | none => return []
  | some name =>
    let t ← value c e
    setName e name
    return [line level (declaration c e name ++ t ++ ";")]

end Write

/-- The selector values of a case; the default value stands first on its line without a word. -/
def caseText : SwitchValue → Bool → String × String
  | .i32 n, _ => ("case ", s!"{n}")
  | .u32 n, _ => ("case ", s!"{n}u")
  | .default, fallThrough => (if fallThrough then "case " else "", "default")

open Write

mutual

def statementLines (c : Frame) (level : Nat) : Statement → Write (List String)
  | .emit first stop => do
    let lines ← (List.range' first (stop - first)).mapM (evaluation c level)
    return lines.flatten
  | .block b => do
    let inner ← blockLines c (level + 1) b
    return line level "\x7b" :: inner ++ [line level "\x7d"]
  | .branch condition accept reject => do
    let t ← value c condition
    let a ← blockLines c (level + 1) accept
    let r ← blockLines c (level + 1) reject
    let otherwise_ := if reject.isEmpty then [] else line level "\x7d else \x7b" :: r
    return line level ("if " ++ t ++ " \x7b") :: a ++ otherwise_ ++ [line level "\x7d"]
  | .switch selector cases => do
    let t ← value c selector
    let inner ← caseLines c (level + 1) "" cases
    return line level ("switch " ++ t ++ " \x7b") :: inner ++ [line level "\x7d"]
  | .loop body continuing breakIf => do
    let b ← blockLines c (level + 1) body
    let k ← blockLines c (level + 2) continuing
    let leave ← match breakIf with
      | some condition => do
        let t ← value c condition
        pure [line (level + 2) ("break if " ++ t ++ ";")]
      | none => pure []
    let tail :=
      if continuing.isEmpty && breakIf.isNone then []
      else line (level + 1) "continuing \x7b" :: k ++ leave ++ [line (level + 1) "\x7d"]
    return line level "loop \x7b" :: b ++ tail ++ [line level "\x7d"]
  | .exit => return [line level "break;"]
  | .next => return [line level "continue;"]
  | .ret none => return [line level "return;"]
  | .ret (some e) => do
    let t ← value c e
    return [line level ("return " ++ t ++ ";")]
  | .kill => return [line level "discard;"]
  | .barrier storage workGroup =>
    return (if storage then [line level "storageBarrier();"] else [])
      ++ (if workGroup then [line level "workgroupBarrier();"] else [])
  | .store pointer e => do
    let p ← text c .place pointer
    let t ← value c e
    return [line level (p ++ " = " ++ t ++ ";")]
  | .call function arguments result => do
    let head ← match result with
      | some e => do
        setName e (sharedName e)
        pure (declaration c e (sharedName e))
      | none => pure ""
    let callee := (c.scope.names.functions[function]?.map (·.name)).getD ""
    let ts ← arguments.mapM (value c)
    return [line level (head ++ callText callee ts ++ ";")]

def statementsLines (c : Frame) (level : Nat) : List (Statement × Span) → Write (List String)
  | [] => return []
  | (s, _) :: rest => do
    let here ← statementLines c level s
    let there ← statementsLines c level rest
    return here ++ there

def blockLines (c : Frame) (level : Nat) : Block → Write (List String)
  | .mk ss => statementsLines c level ss

/-- The cases of a switch. Values whose case has no body of its own are collected for the next
one. -/
def caseLines (c : Frame) (level : Nat) (before : String) : List SwitchCase → Write (List String)
  | [] => return []
  | .mk v body fallThrough :: rest => do
    if fallThrough && !body.isEmpty then throw .fallThrough
    let (word, t) := caseText v fallThrough
    let head := (if before.isEmpty then word else before) ++ t
    let inner ← blockLines c (level + 1) body
    if fallThrough then caseLines c level (head ++ ", ") rest
    else
      let there ← caseLines c level "" rest
      return line level (head ++ ": \x7b") :: inner ++ line level "\x7d" :: there

end

end ShaderConvert.Wgsl.Writer
