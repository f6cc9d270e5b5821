import ShaderConvert.Spirv.FriendlyNames
import ShaderConvert.Spirv.Requirements
import ShaderConvert.Toolchain

/-
Checks of a binary module as a whole.

The instructions are walked once for what concerns their order: sections follow one another, ids
are defined before they are used, blocks and functions are closed, and what a named value needs has
been declared. Then the module as a whole is checked: it has a memory model and entry points, every
id that was used is defined, and every variable that an entry point reaches is listed by it. The
first fault ends the check.
-/
namespace ShaderConvert.Spirv.Validity

/-- The parts of a module, in order. -/
inductive Section where
  | capabilities
  | extensions
  | imports
  | memoryModel
  | entryPoints
  | executionModes
  | sources
  | names
  | processed
  | annotations
  | types
  | declarations
  | definitions
deriving Repr, DecidableEq, Inhabited

namespace Section

def all : List Section :=
  [capabilities, extensions, imports, memoryModel, entryPoints, executionModes, sources, names,
    processed, annotations, types, declarations, definitions]

def rank (s : Section) : Nat := all.idxOf s

/-- The section after this one; the last one stays. -/
def next (s : Section) : Section := all.getD (s.rank + 1) definitions

end Section

def isConstant (o : Opcode) : Bool := (41 ≤ o.number && o.number ≤ 46) || (48 ≤ o.number && o.number ≤ 52)

/-- The section that an instruction belongs to. Some may stand among the types as well as inside of
functions. -/
def sectionOf (current : Section) (o : Opcode) : Section :=
  if o.declaresType || isConstant o then .types
  else
    match o.number with
    | 17 => .capabilities
    | 10 => .extensions
    | 11 => .imports
    | 14 => .memoryModel
    | 15 => .entryPoints
    | 16 | 331 => .executionModes
    | 2 | 3 | 4 | 7 => .sources
    | 5 | 6 => .names
    | 330 => .processed
    | 71 | 72 | 73 | 74 | 75 | 332 | 5632 | 5633 => .annotations
    | 39 => .types
    | 59 | 12 | 8 | 317 | 1 => if current = .types then .types else .definitions
    | 54 | 55 | 56 => if current = .declarations then .declarations else .definitions
    | _ => .definitions

/-- What is wrong with a module. -/
inductive Fault where
  | badMagic
  | badHeader
  | badVersion (major minor : Nat) (env : TargetEnv)
  | largeBound
  | words (f : Instruction.Fault)
  | sameEntryPoint
  | isType (id : String)
  | untyped (id : String)
  | undefined (id : String)
  | noType (id : String)
  | notBefore (id : String)
  | misplaced (opcode : String)
  | beforeMemoryModel (opcode : String)
  | nestedFunction
  | parameterOutside
  | parameterLate
  | endOutside
  | endInBlock
  | declarationLate
  | labelOutside
  | blockOpen
  | noLabel
  | outsideBlock (opcode : String)
  | inDeclaration (opcode : String)
  | callOutside
  | secondMemoryModel
  | operandCapability (index : Nat) (opcode : String) (names : List String)
  | opcodeCapability (opcode : String) (names : List String)
  | noMemoryModel
  | functionOpen
  | forwardUndefined
  | badWidth (opcode : String) (width : Nat)
  | integerWidth (width : Nat)
  | floatWidth (width : Nat)
  | entryNotFunction (id : String)
  | entryParameters (id : String)
  | entryResult (id : String)
  | noOrigin
  | noEntryPoint
  | unlistedVariable (id : Nat) (entry : String) (entryId : Nat)
deriving Repr, DecidableEq

/-- The words for an environment in messages. -/
def environmentText (e : TargetEnv) : String :=
  let version := s!"SPIR-V 1.{e.minor}"
  match e with
  | .vulkan1_0 => version ++ " (under Vulkan 1.0 semantics)"
  | .vulkan1_1 => version ++ " (under Vulkan 1.1 semantics)"
  | .vulkan1_2 => version ++ " (under Vulkan 1.2 semantics)"
  | _ => version

def capabilityList (names : List String) : String := String.join (names.map (· ++ " "))

namespace Fault

def message : Fault → String
  | badMagic => "Invalid SPIR-V magic number."
  | badHeader => "Invalid SPIR-V header."
  | badVersion a b env =>
    s!"Invalid SPIR-V binary version {a}.{b} for target environment " ++ environmentText env ++ "."
  | largeBound => "Invalid SPIR-V.  The id bound is larger than the max id bound 4194303."
  | words f => f.message
  | sameEntryPoint => "2 Entry points cannot share the same name and ExecutionMode."
  | isType i => "Operand " ++ i ++ " cannot be a type"
  | untyped i => "Operand " ++ i ++ " requires a type"
  | undefined i => "ID " ++ i ++ " has not been defined"
  | noType i => "ID " ++ i ++ " is not a type id"
  | notBefore i => "Operand " ++ i ++ " requires a previous definition"
  | misplaced o => o ++ " is in an invalid layout section"
  | beforeMemoryModel o => o ++ " cannot appear before the memory model instruction"
  | nestedFunction => "Cannot declare a function in a function body"
  | parameterOutside => "Function parameter instructions must be in a function body"
  | parameterLate =>
    "Function parameters must only appear immediately after the function definition"
  | endOutside => "Function end instructions must be in a function body"
  | endInBlock => "Function end cannot be called in blocks"
  | declarationLate => "Function declarations must appear before function definitions."
  | labelOutside => "Label instructions must be in a function body"
  | blockOpen => "A block must end with a branch instruction."
  | noLabel => "A function must begin with a label"
  | outsideBlock o => o ++ " must appear in a block"
  | inDeclaration o => o ++ " cannot appear in a function declaration"
  | callOutside => "A FunctionCall must happen within a function body."
  | secondMemoryModel => "OpMemoryModel should only be provided once."
  | operandCapability i o names =>
    s!"Operand {i} of " ++ o ++ " requires one of these capabilities: " ++ capabilityList names
  | opcodeCapability o names =>
    "Opcode " ++ o ++ " requires one of these capabilities: " ++ capabilityList names
  | noMemoryModel => "Missing required OpMemoryModel instruction."
  | functionOpen => "Missing OpFunctionEnd at end of module."
  | forwardUndefined => "The following forward referenced IDs have not been defined:"
  | badWidth o w => s!"Invalid number of bits ({w}) used for Op" ++ o ++ "."
  | integerWidth w =>
    if w = 64 then "Using a 64-bit integer type requires the Int64 capability."
    else if w = 8 then
      "Using an 8-bit integer type requires the Int8 capability, or an extension that explicitly enables 8-bit integers."
    else
      "Using a 16-bit integer type requires the Int16 capability, or an extension that explicitly enables 16-bit integers."
  | floatWidth w =>
    if w = 64 then "Using a 64-bit floating point type requires the Float64 capability."
    else
      "Using a 16-bit floating point type requires the Float16 or Float16Buffer capability, or an extension that explicitly enables 16-bit floating point."
  | entryNotFunction i => "OpEntryPoint Entry Point <id> " ++ i ++ " is not a function."
  | entryParameters i =>
    "OpEntryPoint Entry Point <id> " ++ i ++ "s function parameter count is not zero."
  | entryResult i => "OpEntryPoint Entry Point <id> " ++ i ++ "s function return type is not void."
  | noOrigin =>
    "Fragment execution model entry points require either an OriginUpperLeft or OriginLowerLeft execution mode."
  | noEntryPoint =>
    "No OpEntryPoint instruction was found. This is only allowed if the Linkage capability is being used."
  | unlistedVariable v name e =>
    s!"Interface variable id <{v}> is used by entry point '" ++ name ++ s!"' id <{e}>, but is not "
      ++ "listed as an interface"

end Fault

/-- A fault with the number of its instruction, or zero. -/
abbrev Verdict := Except (Nat × Fault)

/-- The place inside of functions. -/
structure Body where
  /-- The function that is open, and how many blocks it has begun. -/
  function : Option (Nat × Nat) := none
  inBlock : Bool := false
deriving Repr, DecidableEq

/-- What is known from the instructions before. -/
structure State where
  current : Section := .capabilities
  body : Body := {}
  defined : List (Nat × Instruction) := []
  forward : List Nat := []
  capabilities : List Nat := []
  hasMemoryModel : Bool := false
  entryPoints : List (String × Nat) := []
deriving Repr

/-- May the operand of that index be an id that is defined later? -/
def mayBeForward (o : Opcode) (index : Nat) : Bool :=
  if o.declaresType then true
  else
    match o.number with
    | 16 | 331 | 15 | 5 | 6 | 247 | 71 | 72 | 332 | 5632 | 5633 | 249 | 246 => true
    | 74 | 75 | 250 | 251 => index ≠ 0
    | 57 => index = 2
    | 245 => index > 1
    | 39 => index = 0
    | _ => false

def isDebug (o : Opcode) : Bool := [2, 3, 4, 5, 6, 7, 8, 317].contains o.number

def isDecoration (o : Opcode) : Bool := [71, 72, 74, 75, 332, 5632, 5633].contains o.number

/-- An id with its name, for messages. -/
def idText (names : FriendlyNames) (id : Nat) : String := s!"'{id}[%" ++ names.get id ++ "]'"

/-- May an operand of the instruction be an id without a type, such as a label or a function? -/
def mayHoldUntyped (o : Opcode) : Bool :=
  [245, 12, 11, 247, 246, 249, 250, 251, 57].contains o.number

/-- An operand that is an id. -/
def checkId (names : FriendlyNames) (s : State) (i : Instruction) (index id : Nat) :
    Except Fault State :=
  let text := idText names id
  match s.defined.lookup id with
  | some d =>
    let neutral := i.opcode.declaresType || isDebug i.opcode || isDecoration i.opcode
      || i.opcode.number = 54
    if d.opcode.declaresType && !neutral then .error (.isType text)
    else if d.typeId = 0 && !d.opcode.declaresType && !neutral
        && !mayHoldUntyped i.opcode then
      .error (.untyped text)
    else .ok s
  | none =>
    if mayBeForward i.opcode index then
      if i.opcode.declaresType then .error (.notBefore text)
      else .ok { s with forward := id :: s.forward }
    else .error (.undefined text)

def checkTypeId (names : FriendlyNames) (s : State) (id : Nat) : Except Fault State :=
  let text := idText names id
  match s.defined.lookup id with
  | some d => if d.opcode.declaresType then .ok s else .error (.noType text)
  | none => .error (.undefined text)

def checkIds (names : FriendlyNames) (s : State) (i : Instruction) : Except Fault State := do
  let s ← i.operands.zipIdx.foldlM (fun s (o, index) =>
    let n := (o.words.headD 0).toNat
    match o.kind with
    | .id | .scopeId | .memorySemanticsId => checkId names s i index n
    | .typeId => checkTypeId names s n
    | _ => .ok s) s
  return { s with forward := s.forward.filter (· ≠ i.resultId) }

/-- Move on to the section of an instruction outside of functions. -/
def enterSection (o : Opcode) : Nat → Section → Except Fault Section
  | 0, current => .ok current
  | fuel + 1, current =>
    let own := sectionOf current o
    if own = current then .ok current
    else if own.rank < current.rank then .error (.misplaced o.name)
    else
      let next := current.next
      if next = .memoryModel ∧ o.number ≠ 14 then .error (.beforeMemoryModel o.name)
      else if next = .declarations then .ok .declarations
      else enterSection o fuel next

/-- An instruction of the part with the functions. -/
def checkFunctionPart (s : State) (i : Instruction) : Except Fault State := do
  let o := i.opcode
  let s := if s.current = .declarations ∧ sectionOf s.current o ≠ .declarations then
    { s with current := .definitions } else s
  if sectionOf s.current o ≠ s.current then .error (.inDeclaration o.name)
  else
    match o.number, s.body.function with
    | 54, none => .ok { s with body := { function := some (i.resultId, 0) } }
    | 54, some _ => .error .nestedFunction
    | 55, none => .error .parameterOutside
    | 55, some (_, blocks) => if blocks ≠ 0 then .error .parameterLate else .ok s
    | 56, none => .error .endOutside
    | 56, some (_, blocks) =>
      if s.body.inBlock then .error .endInBlock
      else if blocks = 0 ∧ s.current = .definitions then .error .declarationLate
      else .ok { s with body := {} }
    | 8, _ => .ok s
    | 317, _ => .ok s
    | 248, none => .error .labelOutside
    | 248, some (f, blocks) =>
      if s.body.inBlock then .error .blockOpen
      else .ok { s with body := { function := some (f, blocks + 1), inBlock := true } }
    | n, f =>
      if s.current = .declarations ∧ f.isSome then .error .noLabel
      else if !s.body.inBlock then .error (.outsideBlock o.name)
      else if [249, 250, 251, 252, 253, 254, 255, 4416].contains n then
        .ok { s with body := { s.body with inBlock := false } }
      else .ok s

def checkLayout (s : State) (i : Instruction) : Except Fault State := do
  if s.current.rank ≥ Section.declarations.rank then checkFunctionPart s i
  else
    let current ← enterSection i.opcode Section.all.length s.current
    let s := { s with current }
    if current = .declarations then checkFunctionPart s i else .ok s

def hasAny (s : State) (wanted : List Nat) : Bool :=
  wanted.isEmpty || wanted.any s.capabilities.contains

def capabilityNames (cs : List Nat) : List String := cs.map Capability.name

/-- What the instruction and its named values need has been declared. -/
def checkCapabilities (s : State) (i : Instruction) : Except Fault Unit := do
  let o := i.opcode
  let wanted := Opcode.required o.number
  if !hasAny s wanted then throw (.opcodeCapability o.name (capabilityNames wanted))
  i.operands.zipIdx.forM fun (x, index) =>
    match x.kind with
    | .named f =>
      let value := (x.words.headD 0).toNat
      let values := if f.isMask then (Family.bitsOf value).reverse else [value]
      values.forM fun v =>
        let wanted := f.required v
        if f ≠ .capability && !hasAny s wanted then
          throw (.operandCapability (index + 1) o.name (capabilityNames wanted))
        else pure ()
    | _ => pure ()

def declare (s : State) (i : Instruction) : Except Fault State :=
  match i.opcode.number with
  | 17 => .ok { s with capabilities := s.capabilities ++ Capability.closure 4 (i.word 1) }
  | 14 => if s.hasMemoryModel then .error .secondMemoryModel else .ok { s with hasMemoryModel := true }
  | _ => .ok s

/-- One instruction in its order. -/
def step (names : FriendlyNames) (s : State) (i : Instruction) : Except Fault State := do
  let entry := (i.text 2, i.word 1)
  let s ← if i.opcode.number = 15 then
      if s.entryPoints.contains entry then .error .sameEntryPoint
      else pure { s with entryPoints := entry :: s.entryPoints }
    else pure s
  if i.opcode.number = 57 ∧ s.body.function.isNone then throw .callOutside
  let s ← checkIds names s i
  let s ← checkLayout s i
  let s ← declare s i
  checkCapabilities s i
  return if i.resultId = 0 then s else { s with defined := (i.resultId, i) :: s.defined }

def walk (names : FriendlyNames) : Nat → State → List Instruction → Verdict State
  | _, s, [] => .ok s
  | n, s, i :: r =>
    match step names s i with
    | .error f => .error (n, f)
    | .ok s => walk names (n + 1) s r

/-- A declared number type. -/
def checkType (s : State) (i : Instruction) : Except Fault Unit :=
  let has (c : Nat) : Bool := s.capabilities.contains c
  match i.opcode.number, i.word 2 with
  | 21, 32 => .ok ()
  | 21, 8 => if has 39 || has 4448 then .ok () else .error (.integerWidth 8)
  | 21, 16 => if has 22 || has 4433 then .ok () else .error (.integerWidth 16)
  | 21, 64 => if has 11 then .ok () else .error (.integerWidth 64)
  | 21, w => .error (.badWidth "TypeInt" w)
  | 22, 32 => .ok ()
  | 22, 16 => if has 9 || has 8 || has 4433 then .ok () else .error (.floatWidth 16)
  | 22, 64 => if has 10 then .ok () else .error (.floatWidth 64)
  | 22, w => .error (.badWidth "TypeFloat" w)
  | _, _ => .ok ()

/-- An entry point of a shader is a function without parameters and result. -/
def checkEntryPoint (names : FriendlyNames) (s : State) (all : List Instruction) (i : Instruction) :
    Except Fault Unit := do
  let id := i.word 2
  let text := idText names id
  match (s.defined.lookup id).filter (·.opcode.number = 54) with
  | none => throw (.entryNotFunction text)
  | some f =>
    if i.word 1 ≠ 6 then
      match s.defined.lookup (f.word 4) with
      | some t => if t.opcode.number ≠ 33 ∨ t.words.length ≠ 3 then throw (.entryParameters text)
      | none => throw (.entryParameters text)
    match s.defined.lookup f.typeId with
    | some t => if t.opcode.number ≠ 19 then throw (.entryResult text)
    | none => throw (.entryResult text)
    if i.word 1 = 4 then
      let modes := (all.filter fun m => m.opcode.number = 16 && m.word 1 = id).map (·.word 2)
      if !(modes.contains 7 || modes.contains 8) then throw .noOrigin

def checkOne (names : FriendlyNames) (s : State) (all : List Instruction) (i : Instruction) :
    Except Fault Unit :=
  if i.opcode.number = 15 then checkEntryPoint names s all i else checkType s i

/-- Every function with the instructions inside of it. -/
def functions : Option Nat → List Instruction → List (Nat × Instruction)
  | _, [] => []
  | current, i :: r =>
    let current := if i.opcode.number = 54 then some i.resultId else current
    let rest := functions (if i.opcode.number = 56 then none else current) r
    match current with
    | some f => (f, i) :: rest
    | none => rest

/-- The functions that can be reached by calls; every round follows one more call. -/
def reachable (bodies : List (Nat × Instruction)) : Nat → List Nat → List Nat
  | 0, fs => fs
  | fuel + 1, fs =>
    let called := (bodies.filter fun (f, i) => i.opcode.number = 57 && fs.contains f).map
      fun (_, i) => i.word 3
    let fresh := called.filter fun f => !fs.contains f
    if fresh.isEmpty then fs else reachable bodies fuel (fs ++ fresh)

def usesId (id : Nat) (i : Instruction) : Bool :=
  i.operands.any fun o => o.kind = .id && (o.words.headD 0).toNat = id

/-- Is the variable part of the interface? From version 1.4 on all global ones are. -/
def isInterfaceVariable (minor : Nat) (i : Instruction) : Bool :=
  i.opcode.number = 59 && i.word 3 ≠ 7 && (minor ≥ 4 || i.word 3 = 1 || i.word 3 = 3)

/-- Every entry point that uses a variable lists it. -/
def checkInterface (minor : Nat) (all : List Instruction) : Verdict Unit := do
  let bodies := functions none all
  let entries := (all.filter (·.opcode.number = 15)).mergeSort fun a b => a.word 2 ≤ b.word 2
  all.zipIdx.forM fun (v, n) =>
    if isInterfaceVariable minor v then
      let users := (bodies.filter fun (_, i) => usesId v.resultId i).map (·.1)
      entries.forM fun e =>
        let reached := reachable bodies bodies.length [e.word 2]
        let listed := (e.operands.drop 3).any fun o => (o.words.headD 0).toNat = v.resultId
        if users.any reached.contains && !listed then
          throw (n + 1, .unlistedVariable v.resultId (e.text 2) (e.word 2))
        else pure ()
    else pure ()

def largestBound : Nat := 0x3FFFFF

/-- Is the module valid for an environment? -/
def check (env : TargetEnv) (ws : List Word) : Verdict Unit := do
  let known := ws.head? = some Words.magic || ws.head? = some Words.swappedMagic
  if !known then throw (0, .badMagic)
  match Instruction.parse env.minor.toNat ws with
  | .error _ => throw (0, .badHeader)
  | .ok (h, listing) =>
    if h.minor > env.minor.toNat then throw (0, .badVersion h.major h.minor env)
    if h.bound.toNat > largestBound then throw (0, .largeBound)
    match listing.fault with
    | some (n, f) => throw (n, .words f)
    | none => pure ()
    let all := listing.instructions
    let names := FriendlyNames.ofInstructions all
    let s ← walk names 1 {} all
    if !s.hasMemoryModel then throw (0, .noMemoryModel)
    if s.body.function.isSome then throw (0, .functionOpen)
    if !s.forward.isEmpty then throw (0, .forwardUndefined)
    all.zipIdx.forM fun (i, n) => (checkOne names s all i).mapError (n + 1, ·)
    if s.entryPoints.isEmpty && !s.capabilities.contains 5 then throw (0, .noEntryPoint)
    checkInterface h.minor all

end ShaderConvert.Spirv.Validity
