import ShaderConvert.Text.Lines
import ShaderConvert.Text.Utf8
import ShaderConvert.Words
import ShaderConvert.Error

/-
Formats of a shader, the conversions between them and the stages a conversion runs through.

* `Format.detect` guesses the format of a byte buffer from its first significant line.
* `Conversion.between` and `Conversion.ofCode` name the six conversions.
* `Conversion.stages` is the chain of stages of each.
-/
namespace ShaderConvert

/-- Where a conversion result is kept: one slot for each kind. -/
inductive OutputKind where
  | assembly
  | source
  | binary
deriving Repr, DecidableEq, Inhabited

namespace OutputKind

def name : OutputKind → String
  | assembly => "assembly"
  | source => "source"
  | binary => "binary"

def isText : OutputKind → Bool
  | binary => false
  | _ => true

end OutputKind

/-- A representation of a shader. -/
inductive Format where
  | binary
  | assembly
  | source
deriving Repr, DecidableEq, Inhabited

namespace Format

def name : Format → String
  | binary => "spirv"
  | assembly => "spvasm"
  | source => "wgsl"

def outputKind : Format → OutputKind
  | binary => .binary
  | assembly => .assembly
  | source => .source

/-- A line that says something: neither blank nor a comment. The line is trimmed. -/
def isSignificant (line : List Char) : Bool :=
  !line.isEmpty && !Text.startsWith ";" line && !Text.startsWith "//" line

/-- An instruction, with or without a result id. The line is trimmed. -/
def isInstruction (line : List Char) : Bool :=
  Text.startsWith "Op" line ||
    (line.contains '=' &&
      Text.startsWith "%" (Text.trim (line.takeWhile (· ≠ '='))) &&
      Text.startsWith "Op" (Text.trim ((line.dropWhile (· ≠ '=')).drop 1)))

/-- Does the buffer start with the magic number in either byte order? -/
def startsWithMagic (bytes : List UInt8) : Bool :=
  match bytes with
  | a :: b :: c :: d :: _ =>
    let w := Words.ofFourBytes a b c d
    w = Words.magic || Words.swap w = Words.magic
  | _ => false

/-- Text is assembly if its first significant line is an instruction, else source. -/
def detectText (cs : List Char) : Format :=
  match ((Text.linesFrom [] cs).map Text.trim).find? isSignificant with
  | some line => if isInstruction line then assembly else source
  | none => source

/-- The format of a buffer; none if it is neither a binary module nor text. -/
def detect (bytes : List UInt8) : Option Format :=
  if startsWithMagic bytes then some binary
  else match Utf8.decode bytes with
    | .ok s => some (detectText s.toList)
    | .error _ => none

end Format

/-- What a call is doing. -/
inductive PipelineState where
  | idle
  | decoding
  | reading
  | validating
  | emitting
  | published
  | failed
deriving Repr, DecidableEq, Inhabited

/-- One step of a conversion. -/
inductive Stage where
  | input
  | assemble
  | disassemble
  | validate
  | parseBinary
  | parseSource
  | emitSource
  | emitBinary
deriving Repr, DecidableEq, Inhabited

namespace Stage

def name : Stage → String
  | input => "input"
  | assemble => "assemble"
  | disassemble => "disassemble"
  | validate => "validate"
  | parseBinary => "parse-binary"
  | parseSource => "parse-source"
  | emitSource => "emit-source"
  | emitBinary => "emit-binary"

def all : List Stage :=
  [input, assemble, disassemble, validate, parseBinary, parseSource, emitSource, emitBinary]

/-- The state of a call while the stage runs. -/
def state : Stage → PipelineState
  | input | assemble => .decoding
  | validate => .validating
  | parseBinary | parseSource => .reading
  | disassemble | emitSource | emitBinary => .emitting

/-- Does the stage read the caller's own text, so that its places point into it? -/
def readsInputText : Stage → Bool
  | assemble | parseSource => true
  | _ => false

/-- The kind of error that a stage reports. -/
def errorOf (s : Stage) (text : String) : Error :=
  match s with
  | input => .invalidInput text
  | assemble | disassemble | validate => .codec text
  | parseBinary | parseSource => .parse text
  | emitSource | emitBinary => .emit text

end Stage

inductive Conversion where
  | binaryToAssembly
  | assemblyToBinary
  | binaryToSource
  | assemblyToSource
  | sourceToBinary
  | sourceToAssembly
deriving Repr, DecidableEq, Inhabited

namespace Conversion

/-- Every conversion, in the order of the codes. -/
def all : List Conversion :=
  [binaryToAssembly, assemblyToBinary, binaryToSource, assemblyToSource, sourceToBinary,
    sourceToAssembly]

def code : Conversion → Nat
  | binaryToAssembly => 0
  | assemblyToBinary => 1
  | binaryToSource => 2
  | assemblyToSource => 3
  | sourceToBinary => 4
  | sourceToAssembly => 5

def ofCode (n : Nat) : Except Error Conversion :=
  match all.find? (·.code = n) with
  | some c => .ok c
  | none => .error (.invalidInput s!"unknown conversion code {n}")

def between (a b : Format) : Except Error Conversion :=
  match a, b with
  | .binary, .assembly => .ok binaryToAssembly
  | .assembly, .binary => .ok assemblyToBinary
  | .binary, .source => .ok binaryToSource
  | .assembly, .source => .ok assemblyToSource
  | .source, .binary => .ok sourceToBinary
  | .source, .assembly => .ok sourceToAssembly
  | _, _ => .error (.unsupportedConversion a.name b.name)

def input : Conversion → Format
  | binaryToAssembly | binaryToSource => .binary
  | assemblyToBinary | assemblyToSource => .assembly
  | sourceToBinary | sourceToAssembly => .source

def output : Conversion → Format
  | assemblyToBinary | sourceToBinary => .binary
  | binaryToAssembly | sourceToAssembly => .assembly
  | binaryToSource | assemblyToSource => .source

def outputKind (c : Conversion) : OutputKind := c.output.outputKind

/-- The stages, without the decoding of the input and the validation that a caller may ask for. -/
def stages : Conversion → List Stage
  | binaryToAssembly => [.disassemble]
  | assemblyToBinary => [.assemble]
  | binaryToSource => [.parseBinary, .emitSource]
  | assemblyToSource => [.assemble, .parseBinary, .emitSource]
  | sourceToBinary => [.parseSource, .emitBinary]
  | sourceToAssembly => [.parseSource, .emitBinary, .disassemble]

/-- The chain of stages; with `validate` a binary is validated as soon as there is one that came
from the caller. -/
def chain (validate : Bool) (c : Conversion) : List Stage :=
  if validate then
    match c.input with
    | .binary => .validate :: c.stages
    | .assembly => c.stages.take 1 ++ .validate :: c.stages.drop 1
    | .source => c.stages
  else c.stages

def display (c : Conversion) : String := c.input.name ++ " -> " ++ c.output.name

end Conversion

end ShaderConvert
