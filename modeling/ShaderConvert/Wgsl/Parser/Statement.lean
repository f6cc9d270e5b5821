import ShaderConvert.Wgsl.Parser.Expression

/-
Statements.

Blocks contain statements; `Inner` holds the parser for a statement one level deeper, and `statement`
ties the knot by recursion on a bound for the depth. A statement adds to the list of statements
before it: it may add none (`;`) or more than one (the start of a `for`).
-/
namespace ShaderConvert.Wgsl.Parser

open Ast Ir

abbrev Stmts := Array Stmt

/-- Parses a statement in so many braces and adds it. -/
abbrev Inner := Nat → Stmts → P Stmts

/-- How many braces may be open. -/
def maxBraces : Nat := 127

/-- One more brace. -/
def openBrace (level : Nat) : P Nat := do
  let p ← expectPlace (.bracket '\x7b')
  if level + 1 > maxBraces then throw (.nestedTooDeep p) else return level + 1

/-- Statements up to the closing brace. -/
def untilBrace (inner : Inner) (level : Nat) (body : Stmts) : P Stmts :=
  repeatWhile body fun body => do
    if (← skip (.bracket '\x7d')) then return (body, false)
    else return (← inner level body, true)

/-- Statements in braces, with a scope of their own. -/
def block (inner : Inner) (level : Nat) : P (List Stmt × Span) := do
  let start ← startOffset
  pushScope
  let level ← openBrace level
  let body ← untilBrace inner level #[]
  popScope
  return (body.toList, ← placeFrom start)

/-- The operator of an assignment that also computes. -/
def assignmentOperator? : Char → Option BinaryOperator
  | '<' => some .shiftLeft
  | '>' => some .shiftRight
  | '+' => some .add
  | '-' => some .subtract
  | '*' => some .multiply
  | '/' => some .divide
  | '%' => some .modulo
  | '&' => some .and
  | '|' => some .inclusiveOr
  | '^' => some .exclusiveOr
  | _ => none

def assignment (body : Stmts) : P Stmts := do
  let start ← startOffset
  let target ← expression
  let add (k : StmtKind) : P Stmts := do return body.push (.mk k (← placeFrom start))
  match ← next with
  | (.operation '=', _) => do
    let value ← expression
    add (.assign target none value)
  | (.assignment c, _) => do
    let value ← expression
    add (.assign target (assignmentOperator? c) value)
  | (.increment, _) => add (.increment target)
  | (.decrement, _) => add (.decrement target)
  | (_, p) => unexpected p .assignment

/-- A call if a word is followed by a bracket, else an assignment. -/
def callOrAssignment (body : Stmts) : P Stmts := do
  let start ← startOffset
  match ← peek with
  | (.word w, p) => do
    let before ← get
    let _ ← next
    if (← peek).1.isSame (.bracket '(') then
      let i : Ident := ⟨w, p⟩
      use i
      let args ← arguments (← nestedHere)
      return body.push (.mk (.call i args) (← placeFrom start))
    else
      set before
      assignment body
  | _ => assignment body

def semicolon : P Unit := expect (.separator ';')

/-- A type behind a colon. -/
def typeAnnotation : P (Option TypeExpr) := do
  if (← skip (.separator ':')) then return some (← type) else return none

def letStatement : P StmtKind := do
  let name ← nextIdent
  let t ← typeAnnotation
  expect (.operation '=')
  let init ← expression
  semicolon
  let slot ← declareLocal name
  return .letDecl name slot t init

def varStatement : P StmtKind := do
  let name ← nextIdent
  let t ← typeAnnotation
  let init ← if (← skip (.operation '=')) then some <$> expression else pure none
  semicolon
  let slot ← declareLocal name
  return .varDecl name slot t init

def returnStatement : P StmtKind := do
  let value ← if (← peek).1.isSame (.separator ';') then pure none else some <$> expression
  semicolon
  return .ret value

/-- The alternatives of an `if`, from the last one inward. -/
def foldAlternatives (stop : Nat) (otherwise : List Stmt) :
    List (Nat × Expr × List Stmt) → List Stmt
  | [] => otherwise
  | (start, condition, accept) :: rest =>
    [.mk (.branch condition accept (foldAlternatives stop otherwise rest)) ⟨start, stop⟩]

def ifStatement (inner : Inner) (level : Nat) : P StmtKind := do
  let condition ← expression
  let (accept, _) ← block inner level
  let start ← startOffset
  let (alternatives, otherwise, _) ←
    repeatWhile ((#[], [], start) : Array (Nat × Expr × List Stmt) × List Stmt × Nat)
      fun (found, otherwise, start) => do
        if !(← skip (.word "else")) then return ((found, otherwise, start), false)
        else if !(← skip (.word "if")) then
          return ((found, (← block inner level).1, start), false)
        else
          let c ← expression
          let (b, _) ← block inner level
          return ((found.push (start, c, b), otherwise, ← startOffset), true)
  let stop := (← get).lastEnd
  return .branch condition accept (foldAlternatives stop otherwise alternatives.toList)

/-- The value of a case. -/
def caseValue : P CaseValue := do
  if (← peek).1.isSame (.word "default") then
    let _ ← next
    return none
  else return some (← expression)

/-- The values of a case; all but the last fall through to it. -/
def caseValues (cases : Array Case) : P (Array Case × CaseValue) :=
  repeatWhile ((cases, none) : Array Case × CaseValue) fun (cases, _) => do
    let v ← caseValue
    if (← skip (.separator ',')) then
      if (← skip (.separator ':')) then return ((cases, v), false)
      else return ((cases.push (.mk v [] true), v), true)
    else
      let _ ← skip (.separator ':')
      return ((cases, v), false)

def switchStatement (inner : Inner) (level : Nat) : P StmtKind := do
  let selector ← expression
  let level ← openBrace level
  let cases ← repeatWhile (#[] : Array Case) fun cases => do
    match ← next with
    | (.word "case", _) => do
      let (cases, v) ← caseValues cases
      let (body, _) ← block inner level
      return (cases.push (.mk v body false), true)
    | (.word "default", _) => do
      let _ ← skip (.separator ':')
      let (body, _) ← block inner level
      return (cases.push (.mk none body false), true)
    | (.bracket '\x7d', _) => return (cases, false)
    | (_, p) => unexpected p .switchItem
  return .switch selector cases.toList

/-- The block that a loop ends with, and the condition at its end. -/
def continuingBlock (inner : Inner) (level : Nat) : P (Stmts × Option Expr) := do
  let level ← openBrace level
  repeatWhile ((#[], none) : Stmts × Option Expr) fun (body, _) => do
    if (← skip (.word "break")) then
      expect (.word "if")
      let condition ← expression
      semicolon
      expect (.bracket '\x7d')
      return ((body, some condition), false)
    else if (← skip (.bracket '\x7d')) then return ((body, none), false)
    else return ((← inner level body, none), true)

def loopStatement (inner : Inner) (level : Nat) : P StmtKind := do
  let level ← openBrace level
  pushScope
  let (body, continuing, breakIf) ←
    repeatWhile ((#[], #[], none) : Stmts × Stmts × Option Expr) fun (body, _, _) => do
      if (← skip (.word "continuing")) then
        let (continuing, breakIf) ← continuingBlock inner level
        expect (.bracket '\x7d')
        return ((body, continuing, breakIf), false)
      else if (← skip (.bracket '\x7d')) then return ((body, #[], none), false)
      else return ((← inner level body, #[], none), true)
  popScope
  return .loop body.toList continuing.toList breakIf

/-- Leaves a loop unless a condition holds. -/
def guardStatement (condition : Expr) (p : Span) : Stmt :=
  .mk (.branch condition [] [.mk .exit p]) p

def whileStatement (inner : Inner) (level : Nat) : P StmtKind := do
  let (condition, p) ← withPlace expression
  let (body, bodyPlace) ← block inner level
  return .loop [guardStatement condition p, .mk (.block body) bodyPlace] [] none

/-- May a statement start a `for`? -/
def isInitializer : StmtKind → Bool
  | .call _ _ | .assign _ _ _ | .letDecl _ _ _ _ | .varDecl _ _ _ _ => true
  | _ => false

/-- The statement that starts a `for` goes before the loop. -/
def forInitializer (inner : Inner) (level : Nat) (body : Stmts) : P Stmts := do
  let (after, p) ← withPlace (inner level body)
  if after.size = body.size then return after
  else
    match after.back? with
    | some s => if isInitializer s.kind then return after else throw (.invalidForInitializer p)
    | none => return after

def forStatement (inner : Inner) (level : Nat) (body : Stmts) : P (Stmts × StmtKind) := do
  expect (.bracket '(')
  pushScope
  let body ← if (← skip (.separator ';')) then pure body else forInitializer inner level body
  let guards ←
    if (← skip (.separator ';')) then pure []
    else do
      let (condition, p) ← withPlace do
        let c ← expression
        semicolon
        return c
      pure [guardStatement condition p]
  let continuing ←
    if (← skip (.bracket ')')) then pure #[]
    else do
      let c ← callOrAssignment #[]
      expect (.bracket ')')
      pure c
  let (inside, p) ← block inner level
  popScope
  return (body, .loop (guards ++ [.mk (.block inside) p]) continuing.toList none)

def breakStatement (place : Span) : P StmtKind := do
  match ← peek with
  | (.word "if", p) => throw (.invalidBreakIf (place.cover p))
  | _ => do
    semicolon
    return .exit

/-- A statement that begins with a word. -/
def wordStatement (inner : Inner) (level : Nat) (body : Stmts) (start : Nat) (w : String) :
    P Stmts := do
  let add (k : P StmtKind) : P Stmts := do
    let _ ← next
    let k ← k
    return body.push (.mk k (← placeFrom start))
  match w with
  | "_" => add do
      expect (.operation '=')
      let e ← expression
      semicolon
      return .phony e
  | "let" => add letStatement
  | "var" => add varStatement
  | "return" => add returnStatement
  | "if" => add (ifStatement inner level)
  | "switch" => add (switchStatement inner level)
  | "loop" => add (loopStatement inner level)
  | "while" => add (whileStatement inner level)
  | "for" => do
    let _ ← next
    let (before, k) ← forStatement inner level body
    return before.push (.mk k (← placeFrom start))
  | "break" => do
    let (_, p) ← next
    let k ← breakStatement p
    return body.push (.mk k (← placeFrom start))
  | "continue" => add do
      semicolon
      return .next
  | "discard" => add do
      semicolon
      return .kill
  | _ => do
    let after ← callOrAssignment body
    semicolon
    return after

def statementStep (inner : Inner) (level : Nat) (body : Stmts) : P Stmts := do
  let start ← startOffset
  match ← peek with
  | (.separator ';', _) => do
    let _ ← next
    return body
  | (.bracket '\x7b', _) => do
    let (b, p) ← block inner level
    return body.push (.mk (.block b) p)
  | (.word w, _) => wordStatement inner level body start w
  | _ => assignment body

/-- A statement of bounded depth. -/
def statement : Nat → Inner
  | 0, _, _ => throw .other
  | depth + 1, level, body => statementStep (statement depth) level body

/-- The body of a function after its opening brace; the scope is the function's own. -/
def functionBody : P (List Stmt) := do
  expect (.bracket '\x7b')
  let depth ← stepsLeft
  return (← untilBrace (statement depth) 1 #[]).toList

end ShaderConvert.Wgsl.Parser
