import ShaderConvert.Artifact
import ShaderConvert.Toolchain

/-
What each stage does with its value: the tools called with the options of the call, and their
errors turned into failures of the stage.
-/
namespace ShaderConvert

/-- The value between two stages. -/
inductive StageValue (M : Type) where
  | words (ws : List Word)
  | text (s : String)
  | module (m : M)
deriving Repr

/-- The result of a conversion of kind `k`, if the value has that shape. -/
def StageValue.toArtifact? {M : Type} (k : OutputKind) : StageValue M → Option Artifact
  | words ws => if k = .binary then some (.binary ws) else none
  | text s =>
    match k with
    | .assembly => some (.assembly s)
    | .source => some (.source s)
    | .binary => none
  | module _ => none

abbrev StageReply (α : Type) := Reply StageFailure α

namespace Stages

variable {M : Type} (tools : Toolchain M)

/-- A failure of the codec: the words of the operation and the first record. -/
def toolFailure (context : String) (e : Option ToolDiagnostic) : StageFailure :=
  let ds := Diagnostics.ofTool e
  let detail := match ds.firstError? with
    | some d => d.display
    | none => Diagnostics.unknownToolError
  ⟨.codec (context ++ ": " ++ detail), ds⟩

def disassemble (o : CodecOptions) (ws : List Word) : StageReply String :=
  if ws.isEmpty then .error (.ofError (.codec "empty binary"))
  else
    match tools.disassemble o.disassembleSettings ws with
    | .ok (some text) =>
      if text = "" then .error (.ofError (.codec "disassembler produced no text")) else .ok text
    | .ok none => .error (.ofError (.codec "disassembler produced no text"))
    | .error e => .error (toolFailure "failed to disassemble SPIR-V" e)
    | .abort t => .abort t

def assemble (o : CodecOptions) (text : String) : StageReply (List Word) :=
  if (Text.trim text.toList).isEmpty then .error (.ofError (.codec "empty assembly text"))
  else
    (tools.assemble o.assembleSettings text).mapError (toolFailure "failed to assemble SPIR-V")

def validate (o : CodecOptions) (ws : List Word) : StageReply Unit :=
  (tools.validate o.targetEnv ws).mapError (toolFailure "SPIR-V validation failed")

/-- The first error with its place. -/
def summarize (ds : Diagnostics) (otherwise : String) : String :=
  match ds.firstError? with
  | some d =>
    match d.location with
    | some l => d.message ++ " (at " ++ l.display ++ ")"
    | none => d.message
  | none => otherwise

/-- A module that has been read is used only if it is valid. -/
def accept (source : Option String) (m : M) : StageReply M :=
  match tools.check m with
  | .ok _ => .ok m
  | .error e =>
    let ds := Diagnostics.ofInvalidity e source
    let text := summarize ds (e.causes.headD "")
    .error ⟨.parse ("invalid program: " ++ text), ds⟩
  | .abort t => .abort t

def parseSource (source : String) : StageReply M :=
  ((tools.parseSource source).mapError fun e =>
    let ds := Diagnostics.ofSourceError e source
    ⟨.parse (summarize ds e.message), ds⟩).bind (accept tools (some source))

/-- Read a binary module whose features are in the set `fs`. -/
def parseBinaryWith (o : ReaderOptions) (fs : FeatureSet) (ws : List Word) : StageReply M :=
  match fs.check ws with
  | .error f => .error (.ofError (.parse f.message))
  | .ok _ =>
    ((tools.parseBinary o.readSettings ws).mapError fun causes =>
      (⟨.parse ("failed to parse SPIR-V: " ++ causes.headD ""), .ofCauses causes⟩ : StageFailure)).bind
        (accept tools none)

def parseBinary (o : ReaderOptions) (ws : List Word) : StageReply M :=
  parseBinaryWith tools o o.allowedFeatures ws

def emitSource (o : SourceOptions) (m : M) : StageReply String :=
  (tools.emitSource o m).mapError fun t =>
    .ofError (.emit ("failed to generate WGSL: " ++ t))

def emitBinary (o : BinaryOptions) (m : M) : StageReply (List Word) :=
  (tools.emitBinary o.writeSettings m).mapError fun t =>
    .ofError (.emit ("failed to generate SPIR-V: " ++ t))

/-- The first value of a conversion: words or text, as its input format wants. -/
def decodeInput (c : Conversion) (p : Payload) : Except Error (StageValue M) :=
  match c.input, p with
  | .binary, .words ws => .ok (.words (Words.normalize ws))
  | .binary, .bytes bs => (Words.readBytes bs).map .words
  | .binary, .text _ => .error (.invalidInput "SPIR-V binary input given as text")
  | _, .text s => .ok (.text s)
  | _, .bytes bs =>
    match Utf8.decode bs with
    | .ok s => .ok (.text s)
    | .error f => .error (.invalidInput ("input is not UTF-8: " ++ f.message))
  | f, .words _ => .error (.invalidInput (f.name ++ " input given as words"))

/-- One stage after the input, on the value handed to it. -/
def run (o : PipelineOptions) (s : Stage) (v : StageValue M) : StageReply (StageValue M) :=
  match s, v with
  | .disassemble, .words ws => (disassemble tools o.codec ws).map .text
  | .assemble, .text t => (assemble tools o.codec t).map .words
  | .validate, .words ws => (validate tools o.codec ws).map fun _ => .words ws
  | .parseBinary, .words ws => (parseBinary tools o.reader ws).map .module
  | .parseSource, .text t => (parseSource tools t).map .module
  | .emitSource, .module m => (emitSource tools o.source m).map .text
  | .emitBinary, .module m => (emitBinary tools o.binary m).map .words
  | s, _ =>
    .error (.ofError (.invalidInput ("stage " ++ s.name ++ " received a value of the wrong shape")))

end Stages

end ShaderConvert
