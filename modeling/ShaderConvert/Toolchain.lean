import ShaderConvert.Diagnostics
import ShaderConvert.Options

/-
The tools behind the stages, as a parameter.

A pipeline never looks inside a module: it hands words, texts and modules from one tool to the next.
`Toolchain` lists what it asks of them, so that whatever is said about the pipeline holds for any
tools. A call gives a value or an error, or it aborts (`Reply`).

Errors come in three shapes, and each has its way into diagnostics: `Diagnostics.ofTool`,
`Diagnostics.ofSourceError` and `Diagnostics.ofInvalidity`. A tool is handed the options that are
meant for it and no others (`AssembleSettings`, `DisassembleSettings`, `ReadSettings`,
`WriteSettings`).
-/
namespace ShaderConvert

/-- What a call comes to. -/
inductive Reply (ε α : Type) where
  | ok (value : α)
  | error (e : ε)
  | abort (text : String)
deriving Repr, DecidableEq

namespace Reply

def map {ε α β : Type} (f : α → β) : Reply ε α → Reply ε β
  | ok a => ok (f a)
  | error e => error e
  | abort t => abort t

def mapError {ε δ α : Type} (f : ε → δ) : Reply ε α → Reply δ α
  | ok a => ok a
  | error e => error (f e)
  | abort t => abort t

def bind {ε α β : Type} (r : Reply ε α) (f : α → Reply ε β) : Reply ε β :=
  match r with
  | ok a => f a
  | error e => error e
  | abort t => abort t

def ofExcept {ε α : Type} : Except ε α → Reply ε α
  | .ok a => ok a
  | .error e => error e

end Reply

/-- What the codec says about its input: a line, column and index from zero if the input is text,
else the number of a word or instruction. -/
structure ToolDiagnostic where
  line : Nat
  column : Nat
  index : Nat
  message : String
  isText : Bool
deriving Repr, DecidableEq, Inhabited

/-- An error about a source text: a message and labelled ranges, the first of which is where it
is. -/
structure SourceError where
  message : String
  labels : List (Span × String)
deriving Repr, DecidableEq, Inhabited

/-- Why a module is invalid: the error and its causes, outermost first, and labelled ranges. -/
structure Invalidity where
  causes : List String
  spans : List (Span × String)
deriving Repr, DecidableEq, Inhabited

namespace Invalidity

/-- Ranges whose place is unknown are not kept. -/
def ofSpans (causes : List String) (spans : List (Span × String)) : Invalidity :=
  ⟨causes, spans.filter (·.1.isDefined)⟩

end Invalidity

/-- An error and its causes in one line. -/
def chainText (causes : List String) : String := Text.joinWith ": " causes

namespace Diagnostics

/-- The text of an error that came without a diagnostic. -/
def unknownToolError : String := "an unknown error occurred"

def ofTool : Option ToolDiagnostic → Diagnostics
  | some d =>
    if d.isText then
      ⟨[⟨.error, d.message,
        some ⟨d.line.toUInt32 + 1, d.column.toUInt32 + 1, d.index.toUInt32, 0⟩⟩]⟩
    else ofMessage (d.message ++ s!" (word {d.index})")
  | none => ofMessage unknownToolError

/-- The error at its first label, and a note for every label that says something. -/
def ofSourceError (e : SourceError) (source : String) : Diagnostics :=
  let note (l : Span × String) : Diagnostic :=
    ⟨.note, l.2, if l.1.isDefined then some (l.1.locate source) else none⟩
  ⟨⟨.error, e.message, e.labels.head?.map (·.1.locate source)⟩
    :: (e.labels.filter (·.2 ≠ "")).map note⟩

/-- The error with its causes at its first range, and a note for every range. Without a source
there are no places. -/
def ofInvalidity (e : Invalidity) (source : Option String) : Diagnostics :=
  let place (s : Span) : Option Location := source.map s.locate
  ⟨⟨.error, chainText e.causes, e.spans.head?.bind (place ·.1)⟩
    :: e.spans.map fun (s, label) => ⟨.note, label, if s.isDefined then place s else none⟩⟩

/-- An error and its causes. -/
def ofCauses (causes : List String) : Diagnostics := ofMessage (chainText causes)

end Diagnostics

/-- How assembly is turned into words. -/
structure AssembleSettings where
  targetEnv : TargetEnv
  preserveNumericIds : Bool
deriving Repr, DecidableEq, Inhabited

/-- How words are shown as assembly. -/
structure DisassembleSettings where
  targetEnv : TargetEnv
  friendlyNames : Bool
  indent : Bool
  comment : Bool
deriving Repr, DecidableEq, Inhabited

/-- How a binary module is read. -/
structure ReadSettings where
  adjustCoordinateSpace : Bool
  strictCapabilities : Bool
deriving Repr, DecidableEq, Inhabited

/-- How a binary module is written. -/
structure WriteSettings where
  major : UInt8
  minor : UInt8
  boundsCheck : BoundsCheck
  debugInfo : Bool
  adjustCoordinateSpace : Bool
deriving Repr, DecidableEq, Inhabited

namespace CodecOptions

def assembleSettings (o : CodecOptions) : AssembleSettings := ⟨o.targetEnv, o.preserveNumericIds⟩

def disassembleSettings (o : CodecOptions) : DisassembleSettings :=
  ⟨o.targetEnv, o.friendlyNames, o.indent, o.comment⟩

end CodecOptions

def ReaderOptions.readSettings (o : ReaderOptions) : ReadSettings :=
  ⟨o.adjustCoordinateSpace, o.strictCapabilities⟩

/-- Of the two options about indices out of range, only the policy they come to is handed on. -/
def BinaryOptions.writeSettings (o : BinaryOptions) : WriteSettings :=
  ⟨o.major, o.minor, o.effectiveBoundsCheck, o.debugInfo, o.adjustCoordinateSpace⟩

/-- The tools, for modules of type `M`. -/
structure Toolchain (M : Type) where
  assemble : AssembleSettings → String → Reply (Option ToolDiagnostic) (List Word)
  disassemble : DisassembleSettings → List Word → Reply (Option ToolDiagnostic) (Option String)
  validate : TargetEnv → List Word → Reply (Option ToolDiagnostic) Unit
  parseSource : String → Reply SourceError M
  parseBinary : ReadSettings → List Word → Reply (List String) M
  /-- Is the module valid? -/
  check : M → Reply Invalidity Unit
  emitSource : SourceOptions → M → Reply String String
  emitBinary : WriteSettings → M → Reply String (List Word)

end ShaderConvert
