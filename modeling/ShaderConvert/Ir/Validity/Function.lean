import ShaderConvert.Ir.Validity.Expression
import ShaderConvert.Toolchain

/-
Which functions are valid.

Statements may use an expression once an `emit` has evaluated it, and until the block ends that the
`emit` stands in. What ends a block has to be its last statement.
-/
namespace ShaderConvert.Invalidity

/-- The same with a cause and a labelled range around it. -/
def under (e : Invalidity) (cause : String) (spans : List (Span × String)) : Invalidity :=
  ofSpans (cause :: e.causes) (spans ++ e.spans)

end ShaderConvert.Invalidity

namespace ShaderConvert.Ir

/-- The label of an item of a module. -/
def handleLabel (kind : String) (index : Nat) : String := "naga::" ++ kind ++ s!" [{index}]"

inductive CallFault where
  | argument (index : Nat) (fault : ExpressionFault)
  | resultInScope (e : ExprId)
  | argumentCount (required seen : Nat)
  | argumentType (index : Nat) (required : TypeId) (seen : ExprId)
  | resultMismatch (e : Option ExprId)
deriving Repr, DecidableEq, Inhabited

/-- An expression that may be missing, in messages. -/
def optionalTitle : Option ExprId → String
  | some e => s!"Some([{e}])"
  | none => "None"

def CallFault.texts : CallFault → List String
  | argument i f => s!"Argument {i} expression is invalid" :: f.texts
  | resultInScope e => [s!"Result expression [{e}] has already been introduced earlier"]
  | argumentCount r s => [s!"Requires {r} arguments, but {s} are provided"]
  | argumentType i r e => [s!"Argument {i} value [{e}] doesn't match the type [{r}]"]
  | resultMismatch _ => ["The emitted expression doesn't match the call"]

def SwitchValue.title : SwitchValue → String
  | i32 n => s!"I32({n})"
  | u32 n => s!"U32({n})"
  | default => "Default"

inductive LocalFault where
  | type (type : TypeId)
  | initType
  | initNotConstant
deriving Repr, DecidableEq, Inhabited

def LocalFault.message : LocalFault → String
  | type t => s!"Local variable has a type [{t}] that can't be stored in a local variable."
  | initType => "Initializer doesn't match the variable type"
  | initNotConstant => "Initializer is not a const or override expression"

inductive FunctionFault where
  | expression (e : ExprId) (fault : ExpressionFault)
  | alreadyInScope (e : ExprId)
  | localVariable (index : Nat) (name : String) (fault : LocalFault)
  | argumentType (index : Nat) (name : String)
  | returnType
  | argumentSpace (index : Nat) (name : String) (space : AddressSpace)
  | afterReturn
  | breakOutside
  | continueOutside
  | returnSpot
  | returnValue (value : Option ExprId)
  | condition (e : ExprId)
  | selector (e : ExprId)
  | repeatedCase (value : SwitchValue)
  | caseType
  | missingDefault
  | repeatedDefault
  | lastFallsThrough
  | storePointer (e : ExprId)
  | storeValue (e : ExprId)
  | storeTypes (pointer value : ExprId)
  | call (function : Nat) (fault : CallFault)
  | inputOfRegular (name : String)
  | outputOfRegular
deriving Repr, DecidableEq, Inhabited

/-- The fault and its own causes, outermost first. -/
def FunctionFault.texts : FunctionFault → List String
  | expression e f => s!"Expression [{e}] is invalid" :: f.texts
  | alreadyInScope e => [s!"Expression [{e}] can't be introduced - it's already in scope"]
  | localVariable i n f => [s!"Local variable [{i}] '" ++ n ++ "' is invalid", f.message]
  | argumentType i n =>
    ["Argument '" ++ n ++ s!"' at index {i} has a type that can't be passed into functions."]
  | returnType => ["The function's given return type cannot be returned from functions"]
  | argumentSpace i n s =>
    ["Argument '" ++ n ++ s!"' at index {i} is a pointer of space " ++ spaceTitle s
      ++ ", which can't be passed into functions."]
  | afterReturn => ["There are instructions after `return`/`break`/`continue`"]
  | breakOutside => ["The `break` is used outside of a `loop` or `switch` context"]
  | continueOutside => ["The `continue` is used outside of a `loop` context"]
  | returnSpot => ["The `return` is called within a `continuing` block"]
  | returnValue v =>
    ["The `return` value " ++ optionalTitle v ++ " does not match the function return value"]
  | condition e => [s!"The `if` condition [{e}] is not a boolean scalar"]
  | selector e => [s!"The `switch` value [{e}] is not an integer scalar"]
  | repeatedCase v => ["Multiple `switch` cases for " ++ v.title ++ " are present"]
  | caseType => ["The `switch` contains cases with conflicting types"]
  | missingDefault => ["The `switch` is missing a `default` case"]
  | repeatedDefault => ["Multiple `default` cases are present"]
  | lastFallsThrough => ["The last `switch` case contains a `fallthrough`"]
  | storePointer e => [s!"The pointer [{e}] doesn't relate to a valid destination for a store"]
  | storeValue e => [s!"The value [{e}] can not be stored"]
  | storeTypes p v => [s!"The type of [{v}] doesn't match the type stored in [{p}]"]
  | call f fault => s!"Call to [{f}] is invalid" :: fault.texts
  | inputOfRegular n =>
    ["Functions that are not entry points cannot have `@location` or `@builtin` attributes on "
      ++ "their arguments: \"" ++ n ++ "\" has attributes"]
  | outputOfRegular =>
    ["Functions that are not entry points cannot have `@location` or `@builtin` attributes on "
      ++ "their return value types"]

namespace Validity

/-- Which statements may leave a block. -/
structure Exits where
  ret : Bool := true
  exit : Bool := false
  next : Bool := false

/-- Which expressions have been evaluated, and whether the way goes on. -/
structure Progress where
  visible : List ExprId
  finished : Bool := false

abbrev Verdict := Except Invalidity

/-- Refuses with labelled ranges. -/
def refuse {α : Type} (f : FunctionFault) (spans : List (Span × String)) : Verdict α :=
  .error (.ofSpans f.texts spans)

/-- An expression as a labelled range. -/
def exprSpan (s : Scope) (e : ExprId) : Span × String :=
  (s.function.expressions.span e, handleLabel "Expression" e)

def isVisible (s : Scope) (p : Progress) (e : ExprId) : Bool :=
  (s.function.expressions.get e).needsNoEmit || p.visible.contains e

/-- The shape of an expression that has been evaluated. -/
def useOf (s : Scope) (p : Progress) (e : ExprId) : Verdict Shape :=
  if isVisible s p e then .ok (s.shapeOf e)
  else refuse (.expression e .notInScope) [exprSpan s e]

def introduce (s : Scope) (p : Progress) (e : ExprId) : Verdict Progress :=
  if isVisible s p e then refuse (.alreadyInScope e) [exprSpan s e]
  else .ok { p with visible := e :: p.visible }

def checkCondition (s : Scope) (p : Progress) (e : ExprId) : Verdict Unit := do
  match ← useOf s p e with
  | .scalar x => if x.kind = .bool then .ok () else refuse (.condition e) [exprSpan s e]
  | _ => refuse (.condition e) [exprSpan s e]

/-- Where the first statement of a block stands. -/
def firstPlace (b : Block) : Span := (b.statements.head?.map (·.2)).getD .undefined

/-- The values of a switch: all of the type of the selector, none twice, one default. -/
def checkCases (s : Scope) (p : Progress) (selector : ExprId) (cases : List SwitchCase)
    (place : Span) : Verdict Unit := do
  let unsigned ← match (← useOf s p selector).scalarKind? with
    | some .uint => .ok true
    | some .sint => .ok false
    | _ => refuse (.selector selector) [exprSpan s selector]
  let seen ← cases.foldlM (fun (seen : List SwitchValue) (.mk v b _) => do
    let fits := match v, unsigned with
      | .i32 _, false | .u32 _, true | .default, _ => true
      | _, _ => false
    if !fits then refuse .caseType [(firstPlace b, "conflicting switch arm here")]
    else if seen.contains v then
      match v with
      | .default => refuse .repeatedDefault [(firstPlace b, "duplicated switch arm here")]
      | _ => refuse (.repeatedCase v) [(firstPlace b, "conflicting switch arm here")]
    else .ok (v :: seen)) []
  if !seen.contains .default then refuse .missingDefault [(place, "missing default case")]
  else
    match cases.getLast? with
    | some (.mk _ b true) => refuse .lastFallsThrough [(firstPlace b, "bad switch arm here")]
    | _ => .ok ()

/-- The variable or argument that a pointer leads back to. -/
def isStoreTarget (s : Scope) : Nat → ExprId → Except ExprId Unit
  | 0, e => .error e
  | depth + 1, e =>
    match s.function.expressions.get e with
    | .access base _ | .accessIndex base _ => isStoreTarget s depth base
    | .localVariable _ | .globalVariable _ | .functionArgument _ => .ok ()
    | _ => .error e

/-- May one write into a space? -/
def isWritable : AddressSpace → Bool
  | .function | .privateSpace | .workGroup => true
  | .storage a => a.store
  | .uniform | .handle | .pushConstant => false

def checkStore (s : Scope) (p : Progress) (pointer value : ExprId) : Verdict Unit := do
  match isStoreTarget s (pointer + 1) pointer with
  | .error e => refuse (.storePointer e) [exprSpan s pointer]
  | .ok () => .ok ()
  let v ← useOf s p value
  match v with
  | .image _ _ _ | .sampler _ => refuse (.storeValue value) [exprSpan s value]
  | _ => .ok ()
  let target := s.shapeOf pointer
  let fits := match target with
    | .pointer base _ => v == s.module.shapeOf base
    | .valuePointer (some n) x _ => v == .vector n x
    | .valuePointer none x _ => v == .scalar x
    | _ => false
  if !fits then refuse (.storeTypes pointer value) [exprSpan s pointer, exprSpan s value]
  else
    match target.space? with
    | some space =>
      if isWritable space then .ok ()
      else
        refuse (.storePointer pointer)
          [((exprSpan s pointer).1, "writing to this location is not permitted")]
    | none => .ok ()

def checkCall (s : Scope) (p : Progress) (f : Nat) (args : List ExprId) (result : Option ExprId)
    (place : Span) : Verdict Progress := do
  let wrong {α : Type} (fault : CallFault) (spans : List (Span × String)) : Verdict α :=
    refuse (.call f fault) ((place, "invalid function call") :: spans)
  let callee := s.module.functions.get f
  if callee.arguments.length ≠ args.length then
    wrong (.argumentCount callee.arguments.length args.length) []
  else
    (callee.arguments.zip args).zipIdx.forM fun ((a, e), i) =>
      if !isVisible s p e then wrong (.argument i .notInScope) [exprSpan s e, exprSpan s e]
      else if (s.shapeOf e).equivalent s.module.types (s.module.shapeOf a.type) then .ok ()
      else wrong (.argumentType i a.type e) [exprSpan s e]
    match result with
    | some e =>
      if isVisible s p e then wrong (.resultInScope e) [exprSpan s e]
      else if callee.result.isSome && s.function.expressions.get e == .callResult f then
        return { p with visible := e :: p.visible }
      else wrong (.resultMismatch result) [exprSpan s e]
    | none => if callee.result.isSome then wrong (.resultMismatch result) [] else return p

def checkReturn (s : Scope) (p : Progress) (value : Option ExprId) (place : Span) :
    Verdict Unit := do
  let found ← value.mapM (useOf s p)
  let expected := s.function.result.map fun r => s.module.shapeOf r.type
  let fits := match found, expected with
    | none, none => true
    | some a, some b => a.equivalent s.module.types b
    | _, _ => false
  if fits then .ok ()
  else
    match value with
    | some e => refuse (.returnValue value) [exprSpan s e]
    | none => refuse (.returnValue value) [(place, "invalid return")]

mutual

/-- What is known after a statement. -/
def checkStatement (s : Scope) (exits : Exits) (p : Progress) (place : Span) :
    Statement → Verdict Progress
  | .emit first stop => (List.range' first (stop - first)).foldlM (introduce s) p
  | .block b => do
    let after ← checkBlock s exits p b
    return { p with finished := after.finished }
  | .branch c a r => do
    checkCondition s p c
    discard (checkBlock s exits p a)
    discard (checkBlock s exits p r)
    return p
  | .switch selector cases => do
    checkCases s p selector cases place
    checkBodies s { exits with exit := true } p cases
    return p
  | .loop body continuing breakIf => do
    let inner ← checkBlock s { exits with exit := true, next := true } p body
    -- the continuing block sees what the body has evaluated
    let last ← checkBlock s ⟨false, false, false⟩ { inner with finished := false } continuing
    match breakIf with
    | some e => checkCondition s last e
    | none => .ok ()
    return p
  | .exit =>
    if exits.exit then return { p with finished := true }
    else refuse .breakOutside [(place, "invalid break")]
  | .next =>
    if exits.next then return { p with finished := true }
    else refuse .continueOutside [(place, "invalid continue")]
  | .ret value => do
    if !exits.ret then refuse .returnSpot [(place, "invalid return")]
    else
      checkReturn s p value place
      return { p with finished := true }
  | .kill => return { p with finished := true }
  | .barrier _ _ => return p
  | .store pointer value => do
    checkStore s p pointer value
    return p
  | .call f args result => checkCall s p f args result place

def checkStatements (s : Scope) (exits : Exits) (p : Progress) :
    List (Statement × Span) → Verdict Progress
  | [] => return p
  | (t, place) :: rest => do
    if p.finished then refuse .afterReturn [(place, "instructions after return")]
    else
      let p ← checkStatement s exits p place t
      checkStatements s exits p rest

def checkBlock (s : Scope) (exits : Exits) (p : Progress) : Block → Verdict Progress
  | .mk ss => checkStatements s exits p ss

def checkBodies (s : Scope) (exits : Exits) (p : Progress) : List SwitchCase → Verdict Unit
  | [] => return ()
  | .mk _ b _ :: rest => do
    discard (checkBlock s exits p b)
    checkBodies s exits p rest

end

/-- When the value of each expression is known. -/
def kindsOf (es : Arena Expression) : Array Bool :=
  es.toList.foldl (fun known e =>
    known.push (match e with
      | .literal _ | .zeroValue _ | .constant _ | .override _ => true
      | .compose _ _ | .splat _ _ | .accessIndex _ _ | .access _ _ | .swizzle _ _ _ | .unary _ _
      | .binary _ _ _ | .math _ _ | .convert _ _ _ | .select _ _ _ | .relational _ _
      | .arrayLength _ => e.operands.all fun o => known[o]?.getD false
      | _ => false)) #[]

def checkLocal (s : Scope) (kinds : Array Bool) (index : Nat) (v : LocalVariable) :
    Verdict Unit := do
  let wrong (f : LocalFault) : Verdict Unit :=
    refuse (.localVariable index (v.name.getD "") f)
      [(s.module.types.span v.type, handleLabel "Type" v.type),
        (s.function.locals.span index, handleLabel "LocalVariable" index)]
  if !(s.typeInfo[v.type]?.getD default).flags.has .constructible then wrong (.type v.type)
  else
    match v.init with
    | none => .ok ()
    | some e =>
      if !((s.module.shapeOf v.type).equivalent s.module.types (s.shapeOf e)) then wrong .initType
      else if !(kinds[e]?.getD false) then wrong .initNotConstant
      else .ok ()

def checkArgument (s : Scope) (entryPoint : Bool) (index : Nat) (a : FunctionArgument) :
    Verdict Unit :=
  let name := a.name.getD ""
  let spans := [(s.module.types.span a.type, handleLabel "Type" a.type)]
  let badSpace := match (s.module.shapeOf a.type).space? with
    | some .privateSpace | some .function | none => none
    | other => other
  match badSpace with
  | some space => refuse (.argumentSpace index name space) spans
  | none =>
    if !(s.typeInfo[a.type]?.getD default).flags.has .argument then
      refuse (.argumentType index name) spans
    else if !entryPoint && a.binding.isSome then refuse (.inputOfRegular name) spans
    else .ok ()

def checkResult (s : Scope) (entryPoint : Bool) (r : FunctionResult) : Verdict Unit :=
  let spans := [(s.module.types.span r.type, handleLabel "Type" r.type)]
  if !(s.typeInfo[r.type]?.getD default).flags.has .constructible then refuse .returnType spans
  else if !entryPoint && r.binding.isSome then refuse .outputOfRegular spans
  else .ok ()

/-- Is a function valid, and what does it do? -/
def checkFunction (m : Module) (typeInfo : Array TypeInfo) (before : Array FunctionInfo)
    (entryPoint : Bool) (f : Function) : Verdict FunctionInfo := do
  match FunctionInfo.ofFunction m before f with
  | .error (e, fault) =>
    refuse (.expression e (.typing fault)) [(f.expressions.span e, handleLabel "Expression" e)]
  | .ok info => do
    let s : Scope := ⟨m, typeInfo, f, fun e => (info.typeOf e).shapeIn m.types, info.typeOf⟩
    let kinds := kindsOf f.expressions
    f.locals.entries.forM fun (i, v) => checkLocal s kinds i v
    f.arguments.zipIdx.forM fun (a, i) => checkArgument s entryPoint i a
    match f.result with
    | some r => checkResult s entryPoint r
    | none => .ok ()
    f.expressions.entries.forM fun (i, e) =>
      match checkExpression s e with
      | .ok () => .ok ()
      | .error fault => refuse (.expression i fault) [exprSpan s i]
    discard (checkBlock s {} ⟨[], false⟩ f.body)
    return info

end Validity

end ShaderConvert.Ir
