import ShaderConvert.Number.Power
import ShaderConvert.Spirv.Assembly.Cursor
import ShaderConvert.Spirv.Enumerants
import ShaderConvert.Spirv.ExtendedSet
import ShaderConvert.Spirv.Numeral
import ShaderConvert.Spirv.Opcode
import ShaderConvert.Toolchain

/-
From assembly text to words.

An instruction is read by its pattern of operands: each word of the text is encoded as the kind at
the front of the pattern asks for, and may put kinds in front of the rest. Names of ids get the
smallest free numbers in the order in which they appear; to keep numeric names, the text is first
read once without keeping them, which collects them.

A word `!n` stands for the number itself; after it the operands of the instruction are read without
its pattern.
-/
namespace ShaderConvert.Spirv.Assembly

/-- What is wrong with a text. -/
inductive Fault where
  | noInstruction (found : String)
  | noEquals (found : Option String)
  | noOpcode
  | badOpcode (found : String)
  | unknownOpcode (name : String)
  | missingResult (found : String)
  | unwantedResult (id opcode : String)
  | missingOperand (opcode : String) (atEnd : Bool)
  | badImmediate (text : String)
  | immediateBeforeEquals (text : String)
  | badFollower (text : String)
  | noPercent
  | badId (text : String)
  | unknownImport (id : Nat)
  | badImport (name : String)
  | badName (f : Family) (text : String)
  | badExtendedInstruction (name : String)
  | badConstantOpcode (name : String)
  | badString (text : String)
  | numberForString (text : String)
  | untypedConstant (opcode : String)
  | untypedSelector
  | number (f : Numeral.Fault)
  | typeDefinedTwice (id : Nat)
  | badType (opcode : String)
  | tooLong (opcode : String) (size : Nat)
deriving Repr, DecidableEq

namespace Fault

def message : Fault → String
  | noInstruction s =>
    "Expected <opcode> or <result-id> at the beginning of an instruction, found '" ++ s ++ "'."
  | noEquals none => "Expected '=', found end of stream."
  | noEquals (some s) => "'=' expected after result id but found '" ++ s ++ "'."
  | noOpcode => "Expected opcode, found end of stream."
  | badOpcode s => "Invalid Opcode prefix '" ++ s ++ "'."
  | unknownOpcode s => "Invalid Opcode name '" ++ s ++ "'"
  | missingResult s =>
    "Expected <result-id> at the beginning of an instruction, found '" ++ s ++ "'."
  | unwantedResult i o => "Cannot set ID " ++ i ++ " because " ++ o ++ " does not produce a result ID."
  | missingOperand o true =>
    "Expected operand for " ++ o ++ " instruction, but found the end of the stream."
  | missingOperand o false =>
    "Expected operand for " ++ o ++ " instruction, but found the next instruction instead."
  | badImmediate s => "Invalid immediate integer: !" ++ s
  | immediateBeforeEquals s => s ++ " not allowed before =."
  | badFollower s => "Invalid word following !<integer>: " ++ s
  | noPercent => "Expected id to start with %."
  | badId s => "Invalid ID " ++ s
  | unknownImport n => s!"Invalid extended instruction import Id {n}"
  | badImport s => "Invalid extended instruction import '" ++ s ++ "'"
  | badName f s =>
    "Invalid " ++ f.description ++ (if f.isMask then " operand '" else " '") ++ s ++ "'."
  | badExtendedInstruction s => "Invalid extended instruction name '" ++ s ++ "'."
  | badConstantOpcode s => "Invalid " ++ OperandKind.constantOpcode.description ++ " '" ++ s ++ "'."
  | badString s => "Invalid literal string '" ++ s ++ "'."
  | numberForString s => "Expected literal string, found literal number '" ++ s ++ "'."
  | untypedConstant o => "Type for " ++ o ++ " must be a scalar floating point or integer type"
  | untypedSelector =>
    "The selector operand for OpSwitch must be the result of an instruction that generates an integer scalar"
  | number f => f.message
  | typeDefinedTwice n => s!"Value {n} has already been used to generate a type"
  | badType o => "Invalid Op" ++ o ++ " instruction"
  | tooLong o n => o ++ s!" Instruction too long: {n} words, but the limit is 65535"

end Fault

/-- A declared type, as far as numbers depend on it. -/
inductive TypeShape where
  | number (t : NumberType)
  | other
deriving Repr, DecidableEq

/-- What is known from the text before the cursor. -/
structure Context where
  /-- Numeric ids that keep their numbers. -/
  kept : List Nat
  names : List (String × Nat) := []
  next : Nat := 1
  bound : Nat := 1
  types : List (Nat × TypeShape) := []
  valueTypes : List (Nat × Nat) := []
  imports : List (Nat × ExtendedSet) := []
deriving Repr

namespace Context

/-- The first number from `n` on that is not kept; at most one step per kept number is needed. -/
def freeFrom (kept : List Nat) : Nat → Nat → Nat
  | 0, n => n
  | fuel + 1, n => if kept.contains n then freeFrom kept fuel (n + 1) else n

/-- The number of a named id. -/
def idOf (c : Context) (name : String) : Nat × Context :=
  let numeric := (Numeral.parseUnsigned? (twoTo 32) name.toList).filter c.kept.contains
  match numeric with
  | some n => (n, { c with bound := max c.bound ((n + 1) % twoTo 32) })
  | none =>
    match c.names.lookup name with
    | some n => (n, c)
    | none =>
      let n := freeFrom c.kept (c.kept.length + 1) c.next
      (n, { c with names := (name, n) :: c.names, next := n + 1, bound := max c.bound (n + 1) })

/-- The names that are numbers. -/
def numericIds (c : Context) : List Nat :=
  c.names.filterMap fun (s, _) => Numeral.parseUnsigned? (twoTo 32) s.toList

/-- The number type that an id declares. -/
def numberType? (c : Context) (typeId : Nat) : Option NumberType :=
  match c.types.lookup typeId with
  | some (.number t) => some t
  | _ => none

end Context

/-- An instruction in the making: its words after the first one. -/
structure Draft where
  opcode : Option Opcode := none
  words : List Word := []
  typeId : Nat := 0
  set : Option ExtendedSet := none
deriving Repr

namespace Draft

def add (d : Draft) (ws : List Word) : Draft := { d with words := d.words ++ ws }

def number (d : Draft) : Nat := (d.opcode.map (·.number)).getD 65535

end Draft

/-- The result of encoding one word of text: the word does not match an optional kind, or it does
and may change the pattern. -/
inductive Encoded where
  | mismatch
  | done (c : Context) (d : Draft) (pattern : Pattern)

abbrev Outcome := Except Fault Encoded

def isIdCharacter (ch : Char) : Bool := ch = '_' || ch.isAlphanum

def encodeId (c : Context) (d : Draft) (kind : OperandKind) (w : List Char) (p : Pattern) :
    Outcome :=
  match w with
  | '%' :: name =>
    if name.isEmpty || !name.all isIdCharacter then .error (.badId (String.ofList name))
    else
      let (n, c) := c.idOf (String.ofList name)
      let d := d.add [n.toUInt32]
      let d := if kind = .typeId then { d with typeId := n } else d
      -- the set of an extended instruction is its third operand
      if d.number = 12 ∧ d.words.length = 3 then
        match c.imports.lookup n with
        | some set => .ok (.done c { d with set := some set } p)
        | none => .error (.unknownImport ((d.words.getD 1 0).toNat))
      else .ok (.done c d p)
  | _ => .error .noPercent

/-- Is the text a number and no string? -/
def looksNumeric (w : List Char) : Bool :=
  let body := if w.head? = some '-' then w.drop 1 else w
  !w.isEmpty && w ≠ ['-'] && body.all (fun ch => ch.isDigit || ch = '.')
    && (body.filter (· = '.')).length ≤ 1

/-- A string with its escapes resolved: a backslash stands for the character after it. -/
def unescape (escaping : Bool) : List Char → List Char
  | [] => []
  | ch :: r => if ch = '\\' && !escaping then unescape true r else ch :: unescape false r

def quoted? (w : List Char) : Option String :=
  if w.length ≥ 2 && w.head? = some '"' && w.getLast? = some '"' then
    some (String.ofList (unescape false (w.drop 1).dropLast))
  else none

def encodeString (c : Context) (d : Draft) (optional : Bool) (w : List Char) (p : Pattern) :
    Outcome :=
  if looksNumeric w then .error (.numberForString (String.ofList w))
  else
    match quoted? w with
    | none => if optional then .ok .mismatch else .error (.badString (String.ofList w))
    | some s =>
      let done (c : Context) : Outcome := .ok (.done c (d.add (Words.encodeLiteral s)) p)
      if d.number = 11 then
        match ExtendedSet.ofName? s with
        | none => .error (.badImport s)
        | some set => done { c with imports := ((d.words.headD 0).toNat, set) :: c.imports }
      else done c

def encodeNumber (c : Context) (d : Draft) (optional : Bool) (t : NumberType) (w : List Char)
    (p : Pattern) : Outcome :=
  match Numeral.encode t w with
  | .ok ws => .ok (.done c (d.add ws) p)
  | .error f => if optional && f.isTextual then .ok .mismatch else .error (.number f)

/-- A number of the type of the constant or of the selector. -/
def encodeTyped (c : Context) (d : Draft) (optional : Bool) (w : List Char) (p : Pattern) :
    Outcome :=
  if d.number = 251 then
    let selector := (d.words.headD 0).toNat
    match (c.valueTypes.lookup selector).bind c.numberType? with
    | some (.float _) => .error .untypedSelector
    | some t => encodeNumber c d optional t w p
    | none => .error .untypedSelector
  else
    match c.numberType? d.typeId with
    | some t => encodeNumber c d optional t w p
    | none => .error (.untypedConstant ((d.opcode.map (·.name)).getD ""))

def encodeNamed (c : Context) (d : Draft) (f : Family) (w : List Char) (p : Pattern) : Outcome :=
  let text := String.ofList w
  if f.isMask then
    match f.parseMask? text with
    | some v => .ok (.done c (d.add [v.toUInt32]) (f.maskOperands v ++ p))
    | none => .error (.badName f text)
  else
    match f.byName? text with
    | some e => .ok (.done c (d.add [e.value.toUInt32]) (e.operands ++ p))
    | none => .error (.badName f text)

/-- What follows a number of unknown place: a number, a string or an id. -/
def encodeAnything (c : Context) (d : Draft) (w : List Char) (p : Pattern) : Outcome :=
  let t : NumberType :=
    if w.contains '.' then .float 32 else if w.head? = some '-' then .signed 32 else .unsigned 32
  match encodeNumber c d true t w p with
  | .ok .mismatch =>
    match encodeString c d true w p with
    | .ok .mismatch =>
      (encodeId c d .optionalId w p).mapError fun _ => .badFollower (String.ofList w)
    | r => r
  | r => r

def encodeExtended (c : Context) (d : Draft) (w : List Char) (p : Pattern) : Outcome :=
  let text := String.ofList w
  match d.set.bind (·.byName? text) with
  | some e => .ok (.done c (d.add [e.number.toUInt32]) (e.operands ++ p))
  | none =>
    if d.set = some .nonSemantic then
      match Numeral.parseUnsigned? (twoTo 32) w with
      | some n => .ok (.done c (d.add [n.toUInt32]) (.ids :: p))
      | none => .error (.badExtendedInstruction text)
    else .error (.badExtendedInstruction text)

def encodeConstantOpcode (minor : Nat) (c : Context) (d : Draft) (w : List Char) (p : Pattern) :
    Outcome :=
  match (Opcode.byName? minor (String.ofList w)).filter (·.isConstantOperation) with
  | some o => .ok (.done c (d.add [o.number.toUInt32]) (o.operands.drop 2 ++ p))
  | none => .error (.badConstantOpcode (String.ofList w))

/-- The number of a word `!n`. -/
def immediate? (w : List Char) : Except Fault Word :=
  match Numeral.parseUnsigned? (twoTo 32) (w.drop 1) with
  | some n => .ok n.toUInt32
  | none => .error (.badImmediate (String.ofList (w.drop 1)))

/-- The pattern behind a word `!n`: as many words of any form as stood before the result, which
keeps its place, and then any number of them. -/
def afterImmediate (p : Pattern) : Pattern :=
  if p.contains .resultId then
    List.replicate (p.takeWhile (· ≠ .resultId)).length .anything ++ [.resultId, .anything]
  else [.anything]

/-- Encode one word of text as the kind asks. -/
def encodeOperand (minor : Nat) (c : Context) (d : Draft) (kind : OperandKind) (w : List Char)
    (p : Pattern) : Outcome :=
  if w.head? = some '!' then
    (immediate? w).map fun n => .done c (d.add [n]) (afterImmediate p)
  else
    match kind with
    | .id | .optionalId | .typeId | .resultId | .scopeId | .memorySemanticsId | .ids =>
      encodeId c d kind w p
    | .integer => encodeNumber c d false (.unsigned 32) w p
    | .optionalInteger | .integers | .idIntegerPairs => encodeNumber c d true (.unsigned 32) w p
    | .typedNumber => encodeTyped c d false w p
    | .optionalTypedInteger | .integerIdPairs => encodeTyped c d true w p
    | .string => encodeString c d false w p
    | .optionalString => encodeString c d true w p
    | .extendedInstruction => encodeExtended c d w p
    | .constantOpcode => encodeConstantOpcode minor c d w p
    | .named f | .optionalNamed f => encodeNamed c d f w p
    | .anything => encodeAnything c d w (.anything :: p)

/-- A fault and where it is. -/
structure Failure where
  place : Cursor
  fault : Fault
deriving Repr

def failAt {α : Type} (place : Cursor) (fault : Fault) : Except Failure α := .error ⟨place, fault⟩

/-- Read the operands of a pattern. Every operand but the result takes a word of the text, so the
length of the text bounds the steps. -/
def readOperands (minor : Nat) (opcodeName : String) (result : List Char) :
    Nat → Cursor → Context → Draft → Pattern → Except Failure (Cursor × Context × Draft)
  | 0, at_, c, d, _ => .ok (at_, c, d)
  | fuel + 1, at_, c, d, p =>
    match takeKind p with
    | none => .ok (at_, c, d)
    | some (kind, p) =>
      if kind = .resultId && !result.isEmpty then
        match encodeOperand minor c d .resultId result p with
        | .error f => failAt at_ f
        | .ok .mismatch => .ok (at_, c, d)
        | .ok (.done c d p) => readOperands minor opcodeName result fuel at_ c d p
      else
        let at_ := at_.skip
        if at_.atEnd || at_.startsInstruction then
          if kind.isOptional then .ok (at_, c, d)
          else failAt at_ (.missingOperand opcodeName at_.atEnd)
        else
          let (w, behind) := at_.word
          match encodeOperand minor c d kind w p with
          | .error f => failAt at_ f
          | .ok .mismatch => .ok (at_, c, d)
          | .ok (.done c d p) => readOperands minor opcodeName result fuel behind c d p

/-- What a finished instruction tells about types. -/
def record (c : Context) (d : Draft) (o : Opcode) : Except Fault Context :=
  let word (i : Nat) : Nat := (d.words.getD i 0).toNat
  if o.declaresType then
    let value := word 0
    if (c.types.lookup value).isSome then .error (.typeDefinedTwice value)
    else
      let put (s : TypeShape) : Except Fault Context := .ok { c with types := (value, s) :: c.types }
      if o.number = 21 then
        if d.words.length ≠ 3 then .error (.badType o.name)
        else put (.number (if word 2 = 0 then .unsigned (word 1) else .signed (word 1)))
      else if o.number = 22 then
        if d.words.length ≠ 2 then .error (.badType o.name) else put (.number (.float (word 1)))
      else put .other
  else if o.hasType then
    let value := word 1
    if (c.valueTypes.lookup value).isSome then .ok c
    else .ok { c with valueTypes := (value, word 0) :: c.valueTypes }
  else .ok c

/-- The first word of an instruction: the count of words and the number. -/
def firstWord (size number : Nat) : Word := (size * 65536 + number).toUInt32

/-- An instruction that begins with a word `!n`: words of any form up to the next instruction. -/
def readImmediate (minor : Nat) (first : String) :
    Nat → Cursor → Context → Draft → Except Failure (Cursor × Context × List Word)
  | 0, at_, c, d => .ok (at_, c, d.words)
  | fuel + 1, at_, c, d =>
    let at_ := at_.skip
    if at_.atEnd || at_.startsInstruction then .ok (at_, c, d.words)
    else
      let (w, behind) := at_.word
      if w = ['='] then failAt at_ (.immediateBeforeEquals first)
      else
        match encodeOperand minor c d .anything w [] with
        | .error f => failAt at_ f
        | .ok .mismatch => .ok (at_, c, d.words)
        | .ok (.done c d _) => readImmediate minor first fuel behind c d

/-- The operands of an instruction whose name has been read. -/
def readNamed (minor : Nat) (at_ : Cursor) (c : Context) (first opcode result : List Char)
    (behind : Cursor) : Except Failure (Cursor × Context × List Word) :=
  let name := String.ofList opcode
  match Opcode.byName? minor (String.ofList (opcode.drop 2)) with
  | none => failAt at_ (.unknownOpcode name)
  | some o =>
    if o.hasResult && result.isEmpty then failAt at_ (.missingResult (String.ofList first))
    else if !o.hasResult && !result.isEmpty then
      failAt at_ (.unwantedResult (String.ofList result) name)
    else do
      let (behind, c, d) ←
        readOperands minor name result (behind.rest.length + 2) behind c { opcode := some o }
          o.operands
      let size := d.words.length + 1
      match record c d o with
      | .error f => failAt behind f
      | .ok c =>
        if size > 65535 then failAt behind (.tooLong name size)
        else .ok (behind, c, firstWord size o.number :: d.words)

/-- One instruction. -/
def readInstruction (minor : Nat) (at_ : Cursor) (c : Context) :
    Except Failure (Cursor × Context × List Word) :=
  let (first, behind) := at_.word
  if first.head? = some '!' then
    match immediate? first with
    | .error f => failAt at_ f
    | .ok n =>
      readImmediate minor (String.ofList first) (behind.rest.length + 1) behind c { words := [n] }
  else if at_.startsOpcode then readNamed minor at_ c first first [] behind
  else if first.head? ≠ some '%' then failAt at_ (.noInstruction (String.ofList first))
  else
    let eqAt := behind.skip
    if eqAt.atEnd then failAt eqAt (.noEquals none)
    else
      let (eq, behind) := eqAt.word
      if eq ≠ ['='] then failAt eqAt (.noEquals (some (String.ofList eq)))
      else
        let opAt := behind.skip
        if opAt.atEnd then failAt opAt .noOpcode
        else
          let (opcode, behind) := opAt.word
          if !opAt.startsOpcode then failAt opAt (.badOpcode (String.ofList opcode))
          else readNamed minor opAt c first opcode first behind

/-- The instructions of a text, and what is known at its end. An instruction takes a character at
least. -/
def readAll (minor : Nat) :
    Nat → Cursor → Context → Except Failure (Context × List (List Word))
  | 0, _, c => .ok (c, [])
  | fuel + 1, at_, c =>
    let at_ := at_.skip
    if at_.atEnd then .ok (c, [])
    else do
      let (behind, c, ws) ← readInstruction minor at_ c
      let (c, rest) ← readAll minor fuel behind c
      return (c, ws :: rest)

def read (minor : Nat) (text : String) (kept : List Nat) :
    Except Failure (Context × List (List Word)) :=
  let start := Cursor.ofText text
  readAll minor (start.rest.length + 1) start { kept := kept }

/-- The third word of an assembled module. -/
def generator : Word := 0x00070000

/-- The words of a text for modules of version 1.`minor`. -/
def assemble (minor : Nat) (keepNumbers : Bool) (text : String) : Except Failure (List Word) := do
  let kept ← if keepNumbers then (read minor text []).map (·.1.numericIds) else pure []
  let (c, instructions) ← read minor text kept
  let version : Word := (0x10000 + minor * 0x100).toUInt32
  return [Words.magic, version, generator, c.bound.toUInt32, 0] ++ instructions.flatten

/-- A failure as the tool tells it. -/
def Failure.diagnostic (f : Failure) : ToolDiagnostic :=
  ⟨f.place.line, f.place.column, f.place.index, f.fault.message, true⟩

end ShaderConvert.Spirv.Assembly
