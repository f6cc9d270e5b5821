import ShaderConvert.Spirv.FriendlyNames
import ShaderConvert.Toolchain

/-
From words to assembly text.

The text has five comment lines for the header and a line for every instruction. With `indent`, all
instruction names start in the same column and results are right-aligned before it; with `comment`,
headings separate the sections and a name line tells the id that it names.
-/
namespace ShaderConvert.Spirv.Disassembly

/-- Tools that have a number of their own. -/
def generators : List (Nat × String) :=
  [(0, "Khronos"), (1, "LunarG"), (2, "Valve"), (3, "Codeplay"), (4, "NVIDIA"), (5, "ARM"),
    (6, "Khronos LLVM/SPIR-V Translator"), (7, "Khronos SPIR-V Tools Assembler"),
    (8, "Khronos Glslang Reference Front End"), (9, "Qualcomm"), (10, "AMD"), (11, "Intel"),
    (12, "Imagination"), (13, "Google Shaderc over Glslang"), (14, "Google spiregg"),
    (15, "Google rspirv"), (16, "X-LEGEND Mesa-IR/SPIR-V Translator"),
    (17, "Khronos SPIR-V Tools Linker"), (18, "Wine VKD3D Shader Compiler"),
    (19, "Tellusim Clay Shader Compiler"), (20, "W3C WebGPU Group WHLSL Shader Translator"),
    (21, "Google Clspv"), (22, "Google MLIR SPIR-V Serializer"), (23, "Google Tint Compiler"),
    (24, "Google ANGLE Shader Compiler")]

def generatorText (w : Word) : String :=
  let tool := w.toNat / 65536
  let name := match generators.lookup tool with
    | some n => n
    | none => s!"Unknown({tool})"
  name ++ s!"; {w.toNat % 65536}"

def headerText (h : Header) : String :=
  "; SPIR-V\n" ++ s!"; Version: {h.major}.{h.minor}\n"
    ++ "; Generator: " ++ generatorText h.generator ++ "\n"
    ++ s!"; Bound: {h.bound}\n; Schema: {h.schema}\n"

/-- How the text is laid out. -/
structure Layout where
  /-- The column of instruction names, or zero. -/
  indent : Nat
  comment : Bool
  name : Nat → String

def margin (l : Layout) : String := Text.repeatChar ' ' l.indent

/-- A string in quotes, with a backslash before quotes and backslashes. -/
def quote (ws : List Word) : String :=
  let body := (Words.decodeLiteral ws).toList.flatMap fun c =>
    if c = '"' || c = '\\' then ['\\', c] else [c]
  String.ofList ('"' :: (body ++ ['"']))

def operandText (l : Layout) (i : Instruction) (o : Operand) : String :=
  let n := (o.words.headD 0).toNat
  match o.kind with
  | .id | .typeId | .resultId | .scopeId | .memorySemanticsId => "%" ++ l.name n
  | .string => quote o.words
  | .extendedInstruction =>
    match i.set.bind (·.byNumber? n) with
    | some e => e.name
    | none => toString n
  | .constantOpcode => ((Opcode.byNumber? 6 n).map (·.name)).getD ""
  | .named f =>
    if f.isMask then f.maskNames n else ((f.byValue? n).map (·.name)).getD ""
  | _ =>
    match o.number with
    | some t => Numeral.write t o.words
    | none => toString n

/-- The result with its equals sign, or the space that it would take. -/
def resultText (l : Layout) (i : Instruction) : String :=
  if i.resultId = 0 then margin l
  else
    let name := l.name i.resultId
    Text.repeatChar ' ' (l.indent - 3 - name.length - 1) ++ "%" ++ name ++ " = "

def instructionText (l : Layout) (i : Instruction) : String :=
  let operands := (i.operands.filter (·.kind ≠ .resultId)).map fun o => " " ++ operandText l i o
  let note := if l.comment ∧ i.opcode.number = 5 then s!"  ; id %{i.word 1}" else ""
  resultText l i ++ "Op" ++ i.opcode.name ++ String.join operands ++ note ++ "\n"

/-- The sections that get a heading where they begin. -/
inductive Heading where
  | annotations
  | debug
  | types
deriving Repr, DecidableEq

namespace Heading

def title : Heading → String
  | annotations => "Annotations"
  | debug => "Debug Information"
  | types => "Types, variables and constants"

/-- The section that an instruction belongs to. -/
def of? (o : Opcode) : Option Heading :=
  if [71, 72, 74, 75, 332, 5632, 5633].contains o.number then some annotations
  else if [2, 3, 4, 5, 6, 7, 8, 317].contains o.number then some debug
  else if o.declaresType then some types
  else none

end Heading

def headingText (l : Layout) (title : String) : String :=
  "\n" ++ margin l ++ "; " ++ title ++ "\n"

/-- The heading before an instruction, and the headings that have been written. -/
def heading (l : Layout) (seen : List Heading) (i : Instruction) : String × List Heading :=
  if !l.comment then ("", seen)
  else if i.opcode.number = 54 then (headingText l ("Function " ++ l.name i.resultId), seen)
  else
    match Heading.of? i.opcode with
    | some h => if seen.contains h then ("", seen) else (headingText l h.title, h :: seen)
    | none => ("", seen)

def bodyText (l : Layout) (seen : List Heading) : List Instruction → String
  | [] => ""
  | i :: r =>
    let (h, seen) := heading l seen i
    h ++ instructionText l i ++ bodyText l seen r

/-- The text of a module, or the fault and the number of its instruction. -/
def disassemble (o : DisassembleSettings) (ws : List Word) :
    Except (Nat × Instruction.Fault) String :=
  match Instruction.parse o.targetEnv.minor.toNat ws with
  | .error f => .error (0, f)
  | .ok (h, listing) =>
    match listing.fault with
    | some f => .error f
    | none =>
      let names := FriendlyNames.ofInstructions listing.instructions
      let name (id : Nat) : String := if o.friendlyNames then names.get id else toString id
      let l : Layout := ⟨if o.indent then 15 else 0, o.comment, name⟩
      .ok (headerText h ++ bodyText l [] listing.instructions)

end ShaderConvert.Spirv.Disassembly
