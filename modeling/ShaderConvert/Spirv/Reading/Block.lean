import ShaderConvert.Ir.Typing
import ShaderConvert.Spirv.Reading.Image

/-
Blocks: a list of instructions and one that ends it.

`readBlock` reads the instructions after a label. The ones that end a block say which bodies its
successors belong to, as `Flow` explains.
-/
namespace ShaderConvert.Spirv.Reading

open Ir

def binaryOf? : Nat → Option BinaryOperator
  | Code.fAdd => some .add
  | Code.fSub => some .subtract
  | Code.fMul => some .multiply
  | Code.uDiv | Code.fDiv => some .divide
  | Code.uMod | Code.fRem => some .modulo
  | Code.vectorTimesScalar | Code.vectorTimesMatrix | Code.matrixTimesScalar
  | Code.matrixTimesVector | Code.matrixTimesMatrix => some .multiply
  | Code.logicalOr => some .logicalOr
  | Code.logicalAnd => some .logicalAnd
  | Code.fOrdEqual | Code.fUnordEqual | Code.logicalEqual => some .equal
  | Code.fOrdNotEqual | Code.fUnordNotEqual | Code.logicalNotEqual => some .notEqual
  | Code.fOrdLessThan | Code.fUnordLessThan => some .less
  | Code.fOrdGreaterThan | Code.fUnordGreaterThan => some .greater
  | Code.fOrdLessThanEqual | Code.fUnordLessThanEqual => some .lessEqual
  | Code.fOrdGreaterThanEqual | Code.fUnordGreaterThanEqual => some .greaterEqual
  | _ => none

/-- Operations whose operands take the type of the result. -/
def integerOf? : Nat → Option BinaryOperator
  | Code.iAdd => some .add
  | Code.iSub => some .subtract
  | Code.iMul => some .multiply
  | Code.sDiv => some .divide
  | Code.sRem => some .modulo
  | Code.bitwiseOr => some .inclusiveOr
  | Code.bitwiseXor => some .exclusiveOr
  | Code.bitwiseAnd => some .and
  | _ => none

def comparisonOf? : Nat → Option (BinaryOperator × ScalarKind)
  | Code.sGreaterThan => some (.greater, .sint)
  | Code.sGreaterThanEqual => some (.greaterEqual, .sint)
  | Code.sLessThan => some (.less, .sint)
  | Code.sLessThanEqual => some (.lessEqual, .sint)
  | Code.uGreaterThan => some (.greater, .uint)
  | Code.uGreaterThanEqual => some (.greaterEqual, .uint)
  | Code.uLessThan => some (.less, .uint)
  | Code.uLessThanEqual => some (.lessEqual, .uint)
  | _ => none

def derivativeOf? : Nat → Option (DerivativeAxis × DerivativeControl)
  | Code.dPdx => some (.x, .none)
  | Code.dPdy => some (.y, .none)
  | Code.fwidth => some (.width, .none)
  | Code.dPdxFine => some (.x, .fine)
  | Code.dPdyFine => some (.y, .fine)
  | Code.fwidthFine => some (.width, .fine)
  | Code.dPdxCoarse => some (.x, .coarse)
  | Code.dPdyCoarse => some (.y, .coarse)
  | Code.fwidthCoarse => some (.width, .coarse)
  | _ => none

/-- An operation that takes one or two values. -/
def operationOf? (number : Nat) : Option (Head → Drafting Unit) :=
  ((binaryOf? number).map readBinary)
    <|> ((integerOf? number).map (readBinaryAs · true))
    <|> ((comparisonOf? number).map fun (op, kind) => readComparison op kind)
    <|> ((derivativeOf? number).map fun (axis, control) => readDerivative axis control)

/-- The places in the module that is read are not known yet, so a call refers to the list of calls. -/
def addCall (caller callee : Nat) : Read Nat :=
  modifyGet fun r =>
    (r.calls.size, { r with calls := r.calls.push callee, graph := r.graph.addEdge caller callee })

def readCall (h : Head) : Drafting Unit := do
  h.expectAtLeast 4
  flush
  let typeId ← next
  let id ← next
  let callee ← next
  let arguments ← (List.range (h.count - 4)).mapM fun _ => nextOperand
  flush
  let function ← addCall (← get).id callee
  let result ←
    if (← reader).voidType = some typeId then pure none
    else do
      let e ← append (.callResult function) h.span
      define id typeId e
      pure (some e)
  pushStatement (.call function arguments result) h.span
  skipPending

/-- Waits for the other invocations of a workgroup. -/
def readBarrier (h : Head) : Drafting Unit := do
  h.expect 4
  let scopeId ← next
  discard next
  let semanticsId ← next
  let scope ← findConstant scopeId
  let semantics ← findConstant semanticsId
  match ← constantNumber scope with
  | none => throw (.invalid .barrierScope scopeId)
  | some range =>
    match ← constantNumber semantics with
    | none => throw (.invalid .barrierSemantics semanticsId)
    | some bits =>
      -- a workgroup or a part of it
      if range = 2 || range = 3 then
        flush
        pushStatement (.barrier (bits / 0x40 % 2 = 1) (bits / 0x100 % 2 = 1)) h.span

/-- Ends a block with a statement, or by going on with another one. -/
def finishBlock (s : Option Statement) : Drafting Unit := do
  flush
  match s with
  | some s => pushStatement s .undefined
  | none => pure ()
  closeBlock

def readSelectionMerge (h : Head) : Drafting Unit := do
  h.expect 3
  let label ← next
  discard next
  offerBodyOf label (← get).body
  setMerge label .selectionEnd
  modify fun d => { d with selectionEnd := some label }

def readLoopMerge (h : Head) : Drafting Unit := do
  h.expectAtLeast 4
  let endLabel ← next
  let nextLabel ← next
  discard (nextMany (h.count - 3))
  let d ← get
  offerBodyOf endLabel d.body
  setMerge endLabel .loopEnd
  let body ← addBody d.body []
  -- what follows a round sees what the round has computed
  let continuing ← addBody body []
  offerBodyOf nextLabel continuing
  setMerge nextLabel .loopNext
  setBodyOf d.label body
  addFragments d.body [.loop body continuing none]
  modify fun d => { d with body }

def readBranch (h : Head) : Drafting Unit := do
  h.expect 2
  let target ← next
  let d ← get
  match d.merges.lookup target with
  | some m => do
    closeBlock
    addFragments d.body m.fragments
  | none => do
    offerBodyOf target d.body
    finishBlock none

/-- The loop that a body is the continuing part of: the body that it stands in and its own. -/
def loopAround (d : Draft) : Option (Nat × Nat) :=
  let parentOf (b : Nat) : Nat := (d.bodies[b]?.getD default).parent
  let outer := parentOf (parentOf d.body)
  match (d.bodies[outer]?.getD default).fragments.getLast? with
  | some (.loop body continuing none) =>
    if continuing = d.body then some (outer, body) else none
  | _ => none

/-- The condition under which a loop ends, if a branch at its end says so. -/
def breakCondition (d : Draft) (condition : ExprId) (loopBody accept reject : Nat) (h : Head) :
    Drafting (Option ExprId) := do
  let leaves (l : Nat) : Bool := d.merges.lookup l == some .loopEnd
  let repeats (l : Nat) : Bool :=
    (d.merges.lookup l).isNone && d.bodyOf.lookup l == some loopBody
  if leaves accept && repeats reject then return some condition
  else if leaves reject && repeats accept then
    some <$> append (.unary .logicalNot condition) h.span
  else return none

def setBreakIf (e : ExprId) : List Fragment → List Fragment
  | [] => []
  | [.loop body continuing _] => [.loop body continuing (some e)]
  | f :: fs => f :: setBreakIf e fs

/-- A side of a branch: what it jumps out of, or a new body. -/
def sideFragments (d : Draft) (label : Nat) : List Fragment :=
  ((d.merges.lookup label).map (·.fragments)).getD []

def splitBlock (condition : ExprId) (accept reject : Nat) : Drafting Unit := do
  closeBlock
  let d ← get
  let isMerge (l : Nat) : Bool := (d.merges.lookup l).isSome
  if accept = reject then
    if isMerge accept then addFragments d.body (sideFragments d accept)
    else setBodyOf accept d.body
  else
    let a ← addBody d.body (sideFragments d accept)
    if !isMerge accept then setBodyOf accept a
    let r ← addBody d.body (sideFragments d reject)
    if !isMerge reject then setBodyOf reject r
    addFragments d.body [.branch condition a r]

def readConditional (h : Head) : Drafting Unit := do
  h.expectAtLeast 4
  let condition ← nextOperand
  let accept ← next
  let reject ← next
  -- how likely the sides are
  discard (nextMany (h.count - 4))
  let d ← get
  let leave ← match loopAround d with
    | some (outer, body) => do
      match ← breakCondition d condition body accept reject h with
      | some e => pure (some (outer, e))
      | none => pure none
    | none => pure none
  match leave with
  | some (outer, e) => do
    modifyBody outer fun b => { b with fragments := setBreakIf e b.fragments }
    finishBlock none
  | none => splitBlock condition accept reject

/-- Cases of a switch by their targets: the first body of each, and all values that lead there. -/
abbrev CaseGroups := List (Nat × Nat × List Int)

def addCase (groups : CaseGroups) (value : Int) (target body : Nat) : Drafting CaseGroups := do
  match groups.lookup target with
  | some _ =>
    return groups.map fun (t, b, vs) => if t = target then (t, b, vs ++ [value]) else (t, b, vs)
  | none => do
    let b ← addBody body (sideFragments (← get) target)
    offerBodyOf target b
    return groups ++ [(target, b, [value])]

/-- Values that share a target get empty cases before the one that has the body. -/
def expandGroup (body : Nat) : List Int → Nat → Drafting (List (Int × Nat))
  | [], _ => return []
  | first :: more, target => do
    let empties ← more.mapM fun v => do return (v, ← addBody body [])
    return empties ++ [(first, target)]

def readSwitch (h : Head) : Drafting Unit := do
  h.expectAtLeast 3
  let selectorId ← next
  let defaultLabel ← next
  match (← get).selectionEnd with
  | some l => setMerge l .switchEnd
  | none => pure ()
  let body := (← get).body
  let default ← addBody body []
  offerBodyOf defaultLabel default
  let v ← match (← get).values.lookup selectorId with
    | some v => pure v
    | none => throw .noEntry
  let t ← findType v.typeId
  let e ← use selectorId v
  let selector ← match ← shapeOf t.type with
    | .scalar ⟨.uint, _⟩ => reinterpret e .sint h
    | .scalar ⟨.sint, _⟩ => pure e
    | other => throw (.abort ("not implemented: Unexpected selector " ++ other.debugText))
  let groups ← (List.range ((h.count - 3) / 2)).foldlM (fun (groups : CaseGroups) _ => do
    let value ← next
    let target ← next
    addCase groups (signedOf 32 value) target body) []
  let cases ← groups.mapM fun (_, b, vs) => expandGroup body vs b
  closeBlock
  addFragments body [.switch selector cases.flatten default]

/-- Reads one instruction. Is the block complete? -/
def readInstruction (h : Head) : Drafting Bool := do
  let plain (d : Drafting Unit) : Drafting Bool := do
    d
    return false
  let last (d : Drafting Unit) : Drafting Bool := do
    d
    return true
  match h.number with
  | Code.line => plain do
    h.expect 4
    discard (nextMany 3)
  | Code.noLine => plain (h.expect 1)
  | Code.undef => plain (readUndefined h)
  | Code.variable_ => plain (readLocal h)
  | Code.phi => plain (readPhi h)
  | Code.accessChain | Code.inBoundsAccessChain => plain (readAccessChain h)
  | Code.compositeExtract => plain (readExtract h)
  | Code.compositeConstruct => plain (readConstruct h)
  | Code.load => plain (readLoad h)
  | Code.store => plain (readStore h)
  | Code.copyObject => plain (readCopy h)
  | Code.sNegate | Code.fNegate => plain (readUnaryAs .negate h)
  | Code.not => plain (readUnaryAs .bitwiseNot h)
  | Code.logicalNot => plain (readUnary .logicalNot h)
  | Code.iEqual => plain (readBinaryAs .equal false h)
  | Code.iNotEqual => plain (readBinaryAs .notEqual false h)
  | Code.shiftRightLogical | Code.shiftRightArithmetic => plain (readShift .shiftRight h)
  | Code.shiftLeftLogical => plain (readShift .shiftLeft h)
  | Code.transpose => plain (readMath .transpose h)
  | Code.dot => plain (readMath .dot h)
  | Code.outerProduct => plain (readMath .outer h)
  | Code.bitReverse => plain (readMath .reverseBits h)
  | Code.bitCount => plain (readMath .countOneBits h)
  | Code.sampledImage => plain (readSampledPair h)
  | Code.imageSampleImplicitLod | Code.imageSampleExplicitLod => plain (readSample h)
  | Code.select => plain (readSelect h)
  | Code.vectorShuffle => plain (readShuffle h)
  | Code.bitcast => plain (readConversion h true)
  | Code.convertSToF | Code.convertUToF | Code.convertFToU | Code.convertFToS | Code.fConvert
  | Code.uConvert | Code.sConvert => plain (readConversion h false)
  | Code.functionCall => plain (readCall h)
  | Code.extInst => plain (readExtended h)
  | Code.any => plain (readRelational .any h)
  | Code.all => plain (readRelational .all h)
  | Code.isNan => plain (readRelational .isNan h)
  | Code.isInf => plain (readRelational .isInf h)
  | Code.arrayLength => plain (readArrayLength h)
  | Code.controlBarrier => plain (readBarrier h)
  | Code.selectionMerge => plain (readSelectionMerge h)
  | Code.loopMerge => plain (readLoopMerge h)
  | Code.kill => last do
    h.expect 1
    finishBlock (some .kill)
  | Code.unreachable => last do
    h.expect 1
    finishBlock none
  | Code.ret => last do
    h.expect 1
    finishBlock (some (.ret none))
  | Code.returnValue => last do
    h.expect 2
    let e ← nextOperand
    finishBlock (some (.ret (some e)))
  | Code.branch => last (readBranch h)
  | Code.branchConditional => last (readConditional h)
  | Code.switch => last (readSwitch h)
  | number =>
    match operationOf? number with
    | some read => plain (read h)
    | none => refuse h

/-- Reads up to the end of a block. The first argument bounds the number of instructions. -/
def readInstructions : Nat → Drafting Unit
  | 0 => throw .incomplete
  | fuel + 1 => do
    let h ← nextHead
    if !(← readInstruction h) then readInstructions fuel

/-- Reads the block after a label. Every instruction has at least one word. -/
def readBlock (label : Nat) : Drafting Unit := do
  offerBodyOf label 0
  let body ← bodyOfLabel label
  modify fun d => { d with label, body, statements := [], selectionEnd := none }
  skipPending
  readInstructions ((← reader).words.length + 1)

end ShaderConvert.Spirv.Reading
