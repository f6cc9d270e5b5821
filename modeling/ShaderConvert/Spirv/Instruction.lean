import ShaderConvert.Spirv.Enumerants
import ShaderConvert.Spirv.ExtendedSet
import ShaderConvert.Spirv.Numeral
import ShaderConvert.Spirv.Opcode

/-
A binary module taken apart into instructions with typed operands.

`parse` walks the words of a module once. It knows the types declared so far, since the length of a
number depends on its type, and the imported instruction sets. The first thing that does not fit
ends it with a `Fault` and the number of the instruction.
-/
namespace ShaderConvert.Spirv

/-- An operand: its kind, without optional and repeated forms, its words, and for a number its
type. -/
structure Operand where
  kind : OperandKind
  words : List Word
  number : Option NumberType := none
deriving Repr, DecidableEq, Inhabited

structure Instruction where
  opcode : Opcode
  operands : List Operand
  /-- All words, the first one included. -/
  words : List Word
  /-- The id of the type, or zero. -/
  typeId : Nat := 0
  /-- The id of the result, or zero. -/
  resultId : Nat := 0
  set : Option ExtendedSet := none
deriving Repr, Inhabited

namespace Instruction

/-- A word by its index, the first one being the count and the number. -/
def word (i : Instruction) (n : Nat) : Nat := (i.words.getD n 0).toNat

/-- The text of an operand that is a string. -/
def text (i : Instruction) (n : Nat) : String :=
  ((i.operands[n]?).map fun o => Words.decodeLiteral o.words).getD ""

end Instruction

/-- The five words before the instructions. -/
structure Header where
  version : Word
  generator : Word
  bound : Word
  schema : Word
deriving Repr, DecidableEq, Inhabited

namespace Header

def major (h : Header) : Nat := h.version.toNat / 65536 % 256

def minor (h : Header) : Nat := h.version.toNat / 256 % 256

end Header

namespace Instruction

/-- Why words are no module. -/
inductive Fault where
  | shortHeader (size : Nat)
  | badMagic (w : Word)
  | badVersion
  | zeroCount
  | unknownOpcode (number : Nat)
  | moreWords (name : String) (start wanted stated : Nat)
  | fewerWords (name : String) (start stated : Nat)
  | exhausted (name : String) (start : Nat) (cut : Bool) (kind : OperandKind) (offset : Nat)
  | wrongCount (name : String) (start stated found : Nat)
  | zeroType
  | zeroResult
  | zeroId
  | zeroOther (kind : OperandKind)
  | defined (id : Nat)
  | notImported (id : Nat)
  | badImport (name : String)
  | unknownExtended (number : Nat)
  | unknownConstantOpcode (number : Nat)
  | unknownValue (f : Family) (value : Nat)
  | unknownBit (f : Family) (value bit : Nat)
  | notAType (id : Nat)
  | notNumeric (id : Nat)
  | selectorUntyped (id : Nat)
  | selectorIsType (id : Nat)
  | selectorNotInteger (id : Nat)
deriving Repr, DecidableEq

namespace Fault

def message : Fault → String
  | shortHeader n => s!"Module has incomplete header: only {n} words instead of 5"
  | badMagic w => "Invalid SPIR-V magic number '" ++ Text.hex 1 w.toNat ++ "'."
  | badVersion => "Internal error: unhandled header parse failure"
  | zeroCount => "Invalid instruction word count: 0"
  | unknownOpcode n => s!"Invalid opcode: {n}"
  | moreWords o s w n =>
    "Invalid instruction Op" ++ o ++ s!" starting at word {s}: expected no more operands after {w} "
      ++ s!"words, but stated word count is {n}."
  | fewerWords o s n =>
    "End of input reached while decoding Op" ++ o
      ++ s!" starting at word {s}: expected more operands after {n} words."
  | exhausted o s cut k offset =>
    "End of input reached while decoding Op" ++ o ++ s!" starting at word {s}: "
      ++ (if cut then "truncated " else "missing ") ++ k.description
      ++ s!" operand at word offset {offset}."
  | wrongCount o s n m =>
    "Invalid word count: Op" ++ o ++ s!" starting at word {s} says it has {n} words, but found {m} "
      ++ "words instead."
  | zeroType => "Error: Type Id is 0"
  | zeroResult => "Error: Result Id is 0"
  | zeroId => "Id is 0"
  | zeroOther k => k.description ++ " is 0"
  | defined n => s!"Id {n} is defined more than once"
  | notImported n => s!"OpExtInst set Id {n} does not reference an OpExtInstImport result Id"
  | badImport s => "Invalid extended instruction import '" ++ s ++ "'"
  | unknownExtended n => s!"Invalid extended instruction number: {n}"
  | unknownConstantOpcode n => "Invalid " ++ OperandKind.constantOpcode.description ++ s!": {n}"
  | unknownValue f n =>
    "Invalid " ++ f.description ++ s!" operand: {n}" ++ (if f = .sourceLanguage then
      ", if you are creating a new source language please use value 0 (Unknown) and when ready, "
        ++ "add your source language to SPRIV-Headers" else "")
  | unknownBit f n b =>
    "Invalid " ++ f.description ++ s!" operand: {n} has invalid mask component {b}"
  | notAType n => s!"Type Id {n} is not a type"
  | notNumeric n => s!"Type Id {n} is not a scalar numeric type"
  | selectorUntyped n => s!"Invalid OpSwitch: selector id {n} has no type"
  | selectorIsType n => s!"Invalid OpSwitch: selector id {n} is a type, not a value"
  | selectorNotInteger n => s!"Invalid OpSwitch: selector id {n} is not a scalar integer"

end Fault

/-- What is known from the instructions before. -/
structure Context where
  /-- Was the module written in the other byte order? Its strings are then read as they stand. -/
  swapped : Bool := false
  /-- The type of every id defined so far: zero if it has none, itself if it is a type. -/
  typeOf : List (Nat × Nat) := []
  /-- The types, with their number type if they have one. -/
  types : List (Nat × Option NumberType) := []
  imports : List (Nat × ExtendedSet) := []
deriving Repr

namespace Context

def numberType (c : Context) (typeId : Nat) : Except Fault NumberType :=
  match c.types.lookup typeId with
  | none => .error (.notAType typeId)
  | some none => .error (.notNumeric typeId)
  | some (some t) => .ok t

/-- The type of the numbers of a switch. -/
def selectorType (c : Context) (id : Nat) : Except Fault NumberType :=
  match c.typeOf.lookup id with
  | none => .error (.selectorUntyped id)
  | some t =>
    if t = 0 then .error (.selectorUntyped id)
    else if t = id then .error (.selectorIsType id)
    else do
      match ← c.numberType t with
      | .float _ => .error (.selectorNotInteger id)
      | n => .ok n

end Context

/-- An instruction in the making; `rest` are the words still to be read, those of later
instructions included. -/
structure Draft where
  opcode : Opcode
  start : Nat
  offset : Nat := 1
  rest : List Word
  operands : List Operand := []
  typeId : Nat := 0
  resultId : Nat := 0
  set : Option ExtendedSet := none
deriving Repr

/-- The draft with one more operand. -/
def Draft.push (d : Draft) (o : Operand) : Draft :=
  { d with
    operands := d.operands ++ [o], offset := d.offset + o.words.length,
    rest := d.rest.drop o.words.length }

def exhausted (d : Draft) (k : OperandKind) : Fault :=
  .exhausted d.opcode.name d.start (!d.rest.isEmpty) k d.offset

/-- An operand of a named family: the kinds that it brings along. -/
def familyOperands (f : Family) (value : Nat) : Except Fault Pattern :=
  if f.isMask then
    match f.unknownBit? value with
    | some b => .error (.unknownBit f value b)
    | none => .ok (f.maskOperands value)
  else
    match f.byValue? value with
    | some e => .ok e.operands
    | none => .error (.unknownValue f value)

/-- The number of words of the string at the front, if it ends. -/
def stringSize? (ws : List Word) : Option Nat :=
  let n := (Words.literalBytes ws).length
  if n = ws.length * 4 then none else some (n / 4 + 1)

/-- Read one operand of a kind. -/
def readOperand (minor : Nat) (c : Context) (d : Draft) (kind : OperandKind) (p : Pattern) :
    Except Fault (Context × Draft × Pattern) :=
  match d.rest with
  | [] => .error (exhausted d kind)
  | w :: _ =>
    let n := w.toNat
    let single (k : OperandKind) : Draft := d.push ⟨k, [w], none⟩
    let number (t : NumberType) : Except Fault (Context × Draft × Pattern) :=
      let ws := d.rest.take t.wordCount
      if ws.length < t.wordCount then .error (exhausted d kind)
      else .ok (c, d.push ⟨.typedNumber, ws, some t⟩, p)
    match kind with
    | .typeId =>
      if n = 0 then .error .zeroType else .ok (c, { single .typeId with typeId := n }, p)
    | .resultId =>
      if n = 0 then .error .zeroResult
      else if (c.typeOf.lookup n).isSome then .error (.defined n)
      else
        let type := if d.opcode.declaresType then n else d.typeId
        .ok ({ c with typeOf := (n, type) :: c.typeOf }, { single .resultId with resultId := n }, p)
    | .id | .optionalId | .ids =>
      if n = 0 then .error .zeroId
      else if d.opcode.number = 12 ∧ d.offset = 3 then
        match c.imports.lookup n with
        | none => .error (.notImported n)
        | some set => .ok (c, { single .id with set := some set }, p)
      else .ok (c, single .id, p)
    | .scopeId | .memorySemanticsId =>
      if n = 0 then .error (.zeroOther kind) else .ok (c, single kind, p)
    | .integer | .optionalInteger | .integers | .idIntegerPairs =>
      .ok (c, d.push ⟨.integer, [w], some (.unsigned 32)⟩, p)
    | .typedNumber => do number (← c.numberType d.typeId)
    | .optionalTypedInteger | .integerIdPairs => do
      let selector := ((d.operands.head?.bind (·.words.head?)).map UInt32.toNat).getD 0
      number (← c.selectorType selector)
    | .string | .optionalString =>
      let raw := if c.swapped then d.rest.map Words.swap else d.rest
      match stringSize? raw with
      | none => .error (exhausted d kind)
      | some size =>
        let ws := raw.take size
        let done := d.push ⟨.string, ws, none⟩
        if d.opcode.number = 11 then
          let name := Words.decodeLiteral ws
          match ExtendedSet.ofName? name with
          | none => .error (.badImport name)
          | some set => .ok ({ c with imports := (d.resultId, set) :: c.imports }, done, p)
        else .ok (c, done, p)
    | .extendedInstruction =>
      match d.set.bind (·.byNumber? n) with
      | some e => .ok (c, single kind, e.operands ++ p)
      | none =>
        if d.set = some .nonSemantic then .ok (c, single kind, .ids :: p)
        else .error (.unknownExtended n)
    | .constantOpcode =>
      match (Opcode.byNumber? minor n).filter (·.isConstantOperation) with
      | some o => .ok (c, single kind, o.operands.drop 2 ++ p)
      | none => .error (.unknownConstantOpcode n)
    | .named f | .optionalNamed f => do
      let more ← familyOperands f n
      .ok (c, single (.named f), more ++ p)
    | .anything => .ok (c, single kind, p)

/-- Read operands until the stated number of words is used up. -/
def readOperands (minor stated : Nat) :
    Nat → Context → Draft → Pattern → Except Fault (Context × Draft)
  | 0, c, d, _ => .ok (c, d)
  | fuel + 1, c, d, p =>
    if d.offset ≥ stated then
      match p with
      | k :: _ =>
        if k.isOptional then .ok (c, d) else .error (.fewerWords d.opcode.name d.start stated)
      | [] => .ok (c, d)
    else
      match takeKind p with
      | none => .error (.moreWords d.opcode.name d.start d.offset stated)
      | some (kind, p) => do
        let (c, d, p) ← readOperand minor c d kind p
        readOperands minor stated fuel c d p

/-- What a finished instruction tells about types. -/
def record (c : Context) (d : Draft) : Context :=
  if d.opcode.declaresType then
    let word (i : Nat) : Nat := (((d.operands[i]?).bind (·.words.head?)).map UInt32.toNat).getD 0
    let number : Option NumberType :=
      if d.opcode.number = 21 then some (if word 2 = 0 then .unsigned (word 1) else .signed (word 1))
      else if d.opcode.number = 22 then some (.float (word 1))
      else none
    { c with types := (d.resultId, number) :: c.types }
  else c

/-- Read the instruction at the front; `start` is its place among the words of the module. -/
def readOne (minor start : Nat) (c : Context) (first : Word) (rest : List Word) :
    Except Fault (Context × Instruction) :=
  let stated := first.toNat / 65536
  let number := first.toNat % 65536
  if stated = 0 then .error .zeroCount
  else
    match Opcode.byNumber? minor number with
    | none => .error (.unknownOpcode number)
    | some o => do
      -- a number may take no words at all, so words alone do not bound the steps
      let fuel := stated + o.operands.length + 2
      let (c, d) ← readOperands minor stated fuel c { opcode := o, start, rest } o.operands
      if d.offset ≠ stated then .error (.wrongCount o.name start stated d.offset)
      else
        let words := first :: rest.take (stated - 1)
        .ok (record c d, ⟨o, d.operands, words, d.typeId, d.resultId, d.set⟩)

/-- Instructions read so far, and the fault that ended reading, with the number of its
instruction. -/
structure Listing where
  instructions : List Instruction
  fault : Option (Nat × Fault) := none
deriving Repr, Inhabited

def readAll (minor : Nat) : Nat → Nat → Nat → Context → List Word → Listing
  | _, _, _, _, [] => ⟨[], none⟩
  | 0, _, _, _, _ => ⟨[], none⟩
  | fuel + 1, count, start, c, first :: rest =>
    match readOne minor start c first rest with
    | .error f => ⟨[], some (count, f)⟩
    | .ok (c, i) =>
      let size := i.words.length
      let l := readAll minor fuel (count + 1) (start + size) c (rest.drop (size - 1))
      ⟨i :: l.instructions, l.fault⟩

/-- The header of a module of a known version. -/
def header : List Word → Except Fault Header
  | magic :: version :: generator :: bound :: schema :: _ =>
    if magic ≠ Words.magic then .error (.badMagic magic)
    else
      let v := version.toNat
      if v % 256 ≠ 0 ∨ v < 0x10000 ∨ v > 0x10600 then .error .badVersion
      else .ok ⟨version, generator, bound, schema⟩
  | ws => .error (.shortHeader ws.length)

/-- The header and the instructions of a module; `minor` is the version that the reader knows
instructions of. -/
def parse (minor : Nat) (ws : List Word) : Except Fault (Header × Listing) := do
  let swapped := ws.length ≥ 5 && ws.head? = some Words.swappedMagic
  let ws := if swapped then ws.map Words.swap else ws
  let h ← header ws
  let body := ws.drop 5
  return (h, readAll minor body.length 1 5 { swapped } body)

end Instruction

end ShaderConvert.Spirv
