import ShaderConvert.Cache
import ShaderConvert.Pipeline.Stages

/-
The pipeline: a conversion decodes its input and runs its chain of stages; the first stage that
fails ends the call.

* `Pipeline.run` gives the artifact with a report, or the failure with its stage.
* `Pipeline.publishInto` also keeps the artifact in a cache, or the rendering of the failure.
* A stage that aborts fails with the kind of error of that stage.
-/
namespace ShaderConvert

/-- What is told about a conversion that succeeded. -/
structure ConversionReport where
  conversion : Conversion
  stages : List Stage
  state : PipelineState
  diagnostics : Diagnostics
deriving Repr, DecidableEq, Inhabited

structure Product where
  artifact : Artifact
  report : ConversionReport
deriving Repr, DecidableEq, Inhabited

/-- A failed conversion: where it failed and why. -/
structure Failure where
  conversion : Conversion
  stage : Stage
  error : Error
  diagnostics : Diagnostics
deriving Repr, DecidableEq, Inhabited

namespace Failure

def ofStage (c : Conversion) (s : Stage) (f : StageFailure) : Failure :=
  ⟨c, s, f.error, f.diagnostics⟩

def display (f : Failure) : String :=
  f.conversion.display ++ " failed at stage " ++ f.stage.name ++ ": " ++ f.error.display

def render (f : Failure) : String := f.display ++ "\n" ++ f.diagnostics.render

/-- The rendering with lines of the input quoted, if the failing stage read the input as text. -/
def renderWithInput (f : Failure) (p : Payload) : String :=
  match p.text? with
  | some source =>
    if f.stage.readsInputText then f.display ++ "\n" ++ f.diagnostics.renderWithSource source
    else f.render
  | none => f.render

end Failure

namespace Pipeline

variable {M : Type} (tools : Toolchain M) (o : PipelineOptions)

/-- An abort inside a stage is a failure of that stage. -/
def guarded {α : Type} (s : Stage) : StageReply α → Except StageFailure α
  | .ok a => .ok a
  | .error f => .error f
  | .abort t => .error (.ofError (s.errorOf ("internal error in " ++ s.name ++ ": " ++ t)))

/-- The warning about emitted source that cannot be read back. An abort is handed on. -/
def verifySource (text : String) : Reply StageFailure Diagnostics :=
  match Stages.parseSource tools text with
  | .ok _ => .ok {}
  | .error f =>
    .ok ⟨[⟨.warning, "generated WGSL does not re-parse: " ++ f.error.bare, none⟩]⟩
  | .abort t => .abort t

/-- Run the stages of a chain on a value; `report` tells what ran before. -/
def runChain (report : ConversionReport) :
    List Stage → StageValue M → Reply Failure (ConversionReport × StageValue M)
  | [], v => .ok (report, v)
  | s :: r, v =>
    let report := { report with stages := report.stages ++ [s], state := s.state }
    match guarded s (Stages.run tools o s v) with
    | .error f => .error (.ofStage report.conversion s f)
    | .ok w =>
      match s, w with
      | .emitSource, .text t =>
        if o.verifySourceRoundtrip then
          match verifySource tools t with
          | .ok ds =>
            let all := ⟨report.diagnostics.records ++ ds.records⟩
            runChain { report with diagnostics := all } r w
          | .error f => .error (.ofStage report.conversion s f)
          | .abort t => .abort t
        else runChain report r w
      | _, _ => runChain report r w

/-- Convert a payload. -/
def run (c : Conversion) (p : Payload) : Reply Failure Product :=
  match (Stages.decodeInput c p : Except Error (StageValue M)) with
  | .error e => .error (.ofStage c .input (.ofError e))
  | .ok v =>
    match runChain tools o ⟨c, [.input], Stage.input.state, {}⟩ (c.chain o.validateBinary) v with
    | .error f => .error f
    | .abort t => .abort t
    | .ok (report, v) =>
      match v.toArtifact? c.outputKind with
      | some a => .ok ⟨a, { report with state := .published }⟩
      | none =>
        .error (.ofStage c (report.stages.getLastD .input)
          (.ofError (.emit ("chain ended without a " ++ c.outputKind.name ++ " result"))))

/-- Convert a payload and keep the result, or the rendering of the failure, in the cache. -/
def publishInto (cache : ResultCache) (c : Conversion) (p : Payload) :
    Reply Failure Artifact × ResultCache :=
  match run tools o c p with
  | .ok x => (.ok x.artifact, cache.publish x.artifact)
  | .error f => (.error f, cache.recordFailure (f.renderWithInput p))
  | .abort t => (.abort t, cache)

/-- The part of the artifact that `take` gives. -/
def runInto {α : Type} (take : Artifact → Option α) (c : Conversion) (p : Payload) :
    Reply Failure α :=
  match run tools o c p with
  | .error f => .error f
  | .abort t => .abort t
  | .ok x =>
    match take x.artifact with
    | some a => .ok a
    | none =>
      .error (.ofStage c (x.report.stages.getLastD .input)
        (.ofError (.emit
          (c.display ++ " produced an unexpected " ++ x.artifact.kind.name ++ " result"))))

def disassembleBinary (ws : List Word) : Reply Failure String :=
  runInto tools o Artifact.text? .binaryToAssembly (.words ws)

def assembleText (text : String) : Reply Failure (List Word) :=
  runInto tools o Artifact.words? .assemblyToBinary (.text text)

def binaryToSource (ws : List Word) : Reply Failure String :=
  runInto tools o Artifact.text? .binaryToSource (.words ws)

def assemblyToSource (text : String) : Reply Failure String :=
  runInto tools o Artifact.text? .assemblyToSource (.text text)

def sourceToBinary (text : String) : Reply Failure (List Word) :=
  runInto tools o Artifact.words? .sourceToBinary (.text text)

def sourceToAssembly (text : String) : Reply Failure String :=
  runInto tools o Artifact.text? .sourceToAssembly (.text text)

end Pipeline

end ShaderConvert
