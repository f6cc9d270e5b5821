import Mathlib.Tactic
import ShaderConvert.Proofs.Pipeline.StageFailures

/-
Conversion chains are well formed, whatever the tools answer.

A run that succeeds has gone through the whole chain of its conversion and hands out the last value,
of the kind of output it promises (`Succeeds`).  A run that fails names the first stage whose own
function failed on what it was handed, with an error of the kind of that stage and one error record
with notes behind it (`Fails`).  No run ends otherwise, unless a tool aborts while emitted source is
read once more, and so the errors that stand for a chain that does not fit together are never seen
(`run_wellFormed`).  The calls that hand out a text or words give exactly what a run gives
(`HandsOut`).
-/
namespace ShaderConvert

namespace Pipeline

variable {M : Type} (tools : Toolchain M) (o : PipelineOptions)

/-- Stage `s` comes after the stages `done`, all of which succeeded, and its own function fails. -/
inductive FailsAt (c : Conversion) (p : Payload) : List Stage → Stage → StageFailure → Prop where
  | input {e : Error} (h : (Stages.decodeInput c p : Except Error (StageValue M)) = .error e) :
      FailsAt c p [] .input (.ofError e)
  | stage {done : List Stage} {s : Stage} {v : StageValue M} {g : StageFailure}
      (hd : Handed tools o c p done v) (h : guarded s (Stages.run tools o s v) = .error g) :
      FailsAt c p done s g

/-- What a run that succeeds gives. -/
structure Succeeds (c : Conversion) (p : Payload) (x : Product) : Prop where
  conversion : x.report.conversion = c
  kind : x.artifact.kind = c.outputKind
  stages : x.report.stages = .input :: c.chain o.validateBinary
  state : x.report.state = .published
  records : ∀ d ∈ x.report.diagnostics.records, d.severity ≠ .error
  value : ∃ v, Handed tools o c p x.report.stages v ∧ v.toArtifact? c.outputKind = some x.artifact

/-- How a run fails. -/
structure Fails (c : Conversion) (p : Payload) (f : Failure) : Prop where
  conversion : f.conversion = c
  first : ∃ done rest g, .input :: c.chain o.validateBinary = done ++ f.stage :: rest ∧
    FailsAt tools o c p done f.stage g ∧ f.error = g.error ∧ f.diagnostics = g.diagnostics
  inputKind : f.stage = .input →
    (Misaligned c p ∧ f.error.kind = .codec) ∨ (¬ Misaligned c p ∧ f.error.kind = .invalidInput)
  stageKind : f.stage ≠ .input → f.error.kind = f.stage.errorKind
  records : f.diagnostics.IsFailure
  fits : ¬ Misfit f.error

/-- What a call that takes a part of the artifact makes of a run. -/
inductive HandsOut {α : Type} (take : Artifact → Option α) :
    Reply Failure Product → Reply Failure α → Prop where
  | ok {x : Product} {a : α} (h : take x.artifact = some a) : HandsOut take (.ok x) (.ok a)
  | error (f : Failure) : HandsOut take (.error f) (.error f)
  | abort (t : String) : HandsOut take (.abort t) (.abort t)

variable {tools o}

theorem fails_of_decodeInput {c : Conversion} {p : Payload} {e : Error}
    (h : (Stages.decodeInput c p : Except Error (StageValue M)) = .error e) :
    Fails tools o c p (.ofStage c .input (.ofError e)) where
  conversion := rfl
  first := ⟨[], _, _, rfl, .input h, rfl, rfl⟩
  inputKind _ := by
    rcases decodeInput_eq_error h with hk | ⟨hm, t, rfl, -⟩
    · exact .inl hk
    · exact .inr ⟨hm, rfl⟩
  stageKind hs := absurd rfl hs
  records := (StageFailure.sound_ofError e).2
  fits := not_misfit_of_decodeInput h

theorem fails_of_guarded {c : Conversion} {p : Payload} {done rest : List Stage}
    {v : StageValue M} {s : Stage} {f : StageFailure}
    (hl : .input :: c.chain o.validateBinary = done ++ s :: rest)
    (hd : Handed tools o c p done v) (ht : s.takes = some v.shape)
    (hf : guarded s (Stages.run tools o s v) = .error f) :
    Fails tools o c p (.ofStage c s f) where
  conversion := rfl
  first := ⟨done, rest, f, hl, .stage hd hf, rfl, rfl⟩
  inputKind hs := by
    have hs' : s = .input := hs
    rw [hs'] at ht
    cases ht
  stageKind _ := (sound_of_guarded ht hf).1
  records := (sound_of_guarded ht hf).2
  fits := not_misfit_of_guarded ht hf

theorem handsOut_runInto {α : Type} {take : Artifact → Option α} {c : Conversion} (p : Payload)
    (htake : ∀ a, a.kind = c.outputKind → ∃ b, take a = some b) :
    HandsOut take (run tools o c p) (runInto tools o take c p) := by
  have hrun := run_runsTo tools o c p
  rw [runInto]
  cases hx : run tools o c p with
  | error f => exact .error f
  | abort t => exact .abort t
  | ok x =>
    rw [hx] at hrun
    cases hrun with
    | finished hd ha hk hds =>
      obtain ⟨b, hb⟩ := htake _ hk
      simp only [hb]
      exact .ok hb

theorem text?_eq_some {a : Artifact} (h : a.kind ≠ .binary) : ∃ t, a.text? = some t := by
  cases a with
  | assembly t => exact ⟨t, rfl⟩
  | source t => exact ⟨t, rfl⟩
  | binary ws => exact absurd rfl h

theorem words?_eq_some {a : Artifact} (h : a.kind = .binary) : ∃ ws, a.words? = some ws := by
  cases a with
  | assembly t => cases h
  | source t => cases h
  | binary ws => exact ⟨ws, rfl⟩

/-- **Every chain is well formed**, for every options, conversion and payload and whatever the
tools answer. -/
theorem run_wellFormed (tools : Toolchain M) (o : PipelineOptions) :
    (∀ c p, match run tools o c p with
      | .ok x => Succeeds tools o c p x
      | .error f => Fails tools o c p f
      | .abort _ => ¬ tools.Answers) ∧
    (∀ ws, HandsOut Artifact.text? (run tools o .binaryToAssembly (.words ws))
      (disassembleBinary tools o ws)) ∧
    (∀ t, HandsOut Artifact.words? (run tools o .assemblyToBinary (.text t))
      (assembleText tools o t)) ∧
    (∀ ws, HandsOut Artifact.text? (run tools o .binaryToSource (.words ws))
      (binaryToSource tools o ws)) ∧
    (∀ t, HandsOut Artifact.text? (run tools o .assemblyToSource (.text t))
      (assemblyToSource tools o t)) ∧
    (∀ t, HandsOut Artifact.words? (run tools o .sourceToBinary (.text t))
      (sourceToBinary tools o t)) ∧
    (∀ t, HandsOut Artifact.text? (run tools o .sourceToAssembly (.text t))
      (sourceToAssembly tools o t)) := by
  have htext : ∀ c : Conversion, c.outputKind ≠ .binary →
      ∀ a : Artifact, a.kind = c.outputKind → ∃ t, a.text? = some t :=
    fun c hc a ha => text?_eq_some (ha ▸ hc)
  have hwords : ∀ c : Conversion, c.outputKind = .binary →
      ∀ a : Artifact, a.kind = c.outputKind → ∃ ws, a.words? = some ws :=
    fun c hc a ha => words?_eq_some (ha.trans hc)
  refine ⟨?_, fun ws => handsOut_runInto _ (htext _ (by decide)),
    fun t => handsOut_runInto _ (hwords _ rfl), fun ws => handsOut_runInto _ (htext _ (by decide)),
    fun t => handsOut_runInto _ (htext _ (by decide)), fun t => handsOut_runInto _ (hwords _ rfl),
    fun t => handsOut_runInto _ (htext _ (by decide))⟩
  intro c p
  have hrun := run_runsTo tools o c p
  generalize run tools o c p = r at hrun
  cases hrun with
  | refused h => exact fails_of_decodeInput h
  | failed hl hd ht hf => exact fails_of_guarded hl hd ht hf
  | finished hd ha hk hds =>
    exact ⟨rfl, hk, rfl, rfl, fun d hd' => by simp [hds d hd'], _, hd, ha⟩
  | aborted hv h => exact fun ht => Stages.parseSource_ne_abort ht _ _ h

end Pipeline

end ShaderConvert
