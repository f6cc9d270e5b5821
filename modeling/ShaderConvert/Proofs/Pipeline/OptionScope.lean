import Mathlib.Tactic
import ShaderConvert.Proofs.Pipeline.Execution
import ShaderConvert.Tools

/-
A conversion reads only the options of its own stages.

Every stage reads a few options: the codec's settings for it, the options of the reader or of a
writer, and, where source is emitted, whether it is read once more.  If a stage sees no difference
between two options (`Stage.Indifferent`), the step is the same (`perform_congr`); if all stages of
a chain see none, so is the run (`exec_congr`, `run_congr`).

`Conversion.Indifferent` lists for each conversion the options that count.  The main statement is
`run_option_scope`; source as input is never touched by the options of the reader or by validation.
-/
namespace ShaderConvert

/-- A stage sees no difference between the options `o` and `o'`. -/
def Stage.Indifferent (o o' : PipelineOptions) : Stage → Prop
  | input | parseSource => True
  | assemble => o.codec.assembleSettings = o'.codec.assembleSettings
  | disassemble => o.codec.disassembleSettings = o'.codec.disassembleSettings
  | validate => o.codec.targetEnv = o'.codec.targetEnv
  | parseBinary => o.reader = o'.reader
  | emitSource => o.source = o'.source ∧ o.verifySourceRoundtrip = o'.verifySourceRoundtrip
  | emitBinary => o.binary.writeSettings = o'.binary.writeSettings

/-- Options of the codec that look the same to the assembler. -/
structure CodecOptions.SameAssembly (o o' : CodecOptions) : Prop where
  targetEnv : o.targetEnv = o'.targetEnv
  preserveNumericIds : o.preserveNumericIds = o'.preserveNumericIds

/-- Options of the codec that look the same to the disassembler. -/
structure CodecOptions.SameDisassembly (o o' : CodecOptions) : Prop where
  targetEnv : o.targetEnv = o'.targetEnv
  friendlyNames : o.friendlyNames = o'.friendlyNames
  indent : o.indent = o'.indent
  comment : o.comment = o'.comment

/-- Options that look the same to the writer of binaries: of the policy for indices out of range and
the switch that turns it off, only what they come to. -/
structure BinaryOptions.SameOutput (o o' : BinaryOptions) : Prop where
  major : o.major = o'.major
  minor : o.minor = o'.minor
  effectiveBoundsCheck : o.effectiveBoundsCheck = o'.effectiveBoundsCheck
  debugInfo : o.debugInfo = o'.debugInfo
  adjustCoordinateSpace : o.adjustCoordinateSpace = o'.adjustCoordinateSpace

/-- A conversion sees no difference between the options `o` and `o'`. -/
def Conversion.Indifferent (o o' : PipelineOptions) : Conversion → Prop
  | binaryToAssembly =>
    o.codec.SameDisassembly o'.codec ∧ o.validateBinary = o'.validateBinary
  | assemblyToBinary =>
    o.codec.SameAssembly o'.codec ∧ o.validateBinary = o'.validateBinary
  | binaryToSource =>
    o.reader = o'.reader ∧ o.source = o'.source ∧ o.validateBinary = o'.validateBinary ∧
      o.verifySourceRoundtrip = o'.verifySourceRoundtrip ∧
      (o.validateBinary = true → o.codec.targetEnv = o'.codec.targetEnv)
  | assemblyToSource =>
    o.codec.SameAssembly o'.codec ∧ o.reader = o'.reader ∧ o.source = o'.source ∧
      o.validateBinary = o'.validateBinary ∧
      o.verifySourceRoundtrip = o'.verifySourceRoundtrip
  | sourceToBinary => o.binary.SameOutput o'.binary
  | sourceToAssembly => o.binary.SameOutput o'.binary ∧ o.codec.SameDisassembly o'.codec

theorem CodecOptions.SameAssembly.settings_eq {o o' : CodecOptions} (h : o.SameAssembly o') :
    o.assembleSettings = o'.assembleSettings := by
  rw [assembleSettings, assembleSettings, h.targetEnv, h.preserveNumericIds]

theorem CodecOptions.SameDisassembly.settings_eq {o o' : CodecOptions}
    (h : o.SameDisassembly o') : o.disassembleSettings = o'.disassembleSettings := by
  rw [disassembleSettings, disassembleSettings, h.targetEnv, h.friendlyNames, h.indent, h.comment]

theorem BinaryOptions.SameOutput.settings_eq {o o' : BinaryOptions} (h : o.SameOutput o') :
    o.writeSettings = o'.writeSettings := by
  rw [writeSettings, writeSettings, h.major, h.minor, h.effectiveBoundsCheck, h.debugInfo,
    h.adjustCoordinateSpace]

namespace Pipeline

variable {M : Type} {tools : Toolchain M} {o o' : PipelineOptions}

/-! ### One stage -/

/-- **A stage reads only its own options.** -/
theorem stageRun_congr {s : Stage} (h : s.Indifferent o o') (v : StageValue M) :
    Stages.run tools o s v = Stages.run tools o' s v := by
  cases s with
  | input => cases v <;> rfl
  | parseSource => cases v <;> rfl
  | assemble =>
    have hs : o.codec.assembleSettings = o'.codec.assembleSettings := h
    cases v <;> simp only [Stages.run, Stages.assemble, hs]
  | disassemble =>
    have hs : o.codec.disassembleSettings = o'.codec.disassembleSettings := h
    cases v <;> simp only [Stages.run, Stages.disassemble, hs]
  | validate =>
    have hs : o.codec.targetEnv = o'.codec.targetEnv := h
    cases v <;> simp only [Stages.run, Stages.validate, hs]
  | parseBinary =>
    have hs : o.reader = o'.reader := h
    cases v <;> simp only [Stages.run, hs]
  | emitSource => cases v <;> simp only [Stages.run, h.1]
  | emitBinary =>
    have hs : o.binary.writeSettings = o'.binary.writeSettings := h
    cases v <;> simp only [Stages.run, Stages.emitBinary, hs]

/-- Only emitted source is looked at again, and there the stage sees whether that is asked for. -/
theorem remarks_congr {s : Stage} (h : s.Indifferent o o') (w : StageValue M) :
    remarks tools o s w = remarks tools o' s w := by
  unfold remarks
  split
  · rw [h.2]
  · rfl

theorem perform_congr {s : Stage} (h : s.Indifferent o o') (v : StageValue M) :
    perform tools o s v = perform tools o' s v := by
  rw [perform, perform, stageRun_congr h]
  cases guarded s (Stages.run tools o' s v) with
  | error f => rfl
  | ok w => simp only [remarks_congr h]

/-! ### Chains and runs -/

/-- **A chain reads only the options of its stages.** -/
theorem exec_congr {l : List Stage} (h : ∀ s ∈ l, s.Indifferent o o') (v : StageValue M) :
    exec tools o l v = exec tools o' l v := by
  induction l generalizing v with
  | nil => rfl
  | cons s l ih =>
    have hs : s.Indifferent o o' := h s List.mem_cons_self
    have hl : ∀ u ∈ l, u.Indifferent o o' := fun u hu => h u (List.mem_cons_of_mem s hu)
    rw [exec, exec, perform_congr hs]
    rcases perform tools o' s v with ⟨ds, w⟩ | f | t
    · simp only [ih hl w]
    · rfl
    · rfl

/-- Runs of one chain are the same with options that look the same to its stages. -/
theorem run_congr {c : Conversion} (hc : c.chain o.validateBinary = c.chain o'.validateBinary)
    (h : ∀ s ∈ c.chain o.validateBinary, s.Indifferent o o') (p : Payload) :
    run tools o c p = run tools o' c p := by
  rw [run_eq, run_eq]
  cases (Stages.decodeInput c p : Except Error (StageValue M)) with
  | error e => rfl
  | ok v =>
    simp only [← hc, exec_congr h]
    rcases exec tools o' (c.chain o.validateBinary) v with ⟨ds, w⟩ | ⟨s, f⟩ | t
    · simp only [finish, hc]
    · rfl
    · rfl

/-! ### The table of conversions -/

/-- Validation is the only stage of a chain that the list of stages does not have. -/
theorem indifferent_chain {c : Conversion} {validate : Bool}
    (h : ∀ s ∈ c.stages, s.Indifferent o o')
    (hv : validate = true → o.codec.targetEnv = o'.codec.targetEnv) :
    ∀ s ∈ c.chain validate, s.Indifferent o o' := by
  intro s hs
  by_cases hval : s = .validate
  · subst hval
    cases validate with
    | true => exact hv rfl
    | false => exact h _ hs
  · refine h s ?_
    cases validate with
    | false => exact hs
    | true => cases c <;> simp_all [Conversion.chain, Conversion.input, Conversion.stages]

theorem chain_of_source {c : Conversion} (h : c.input = .source) (validate : Bool) :
    c.chain validate = c.stages := by
  cases c <;> cases h <;> cases validate <;> rfl

/-- **Options that look the same to a conversion look the same to its stages**, and its chain is
the same. -/
theorem indifferent_of_conversion {c : Conversion} (h : c.Indifferent o o') :
    c.chain o.validateBinary = c.chain o'.validateBinary ∧
      ∀ s ∈ c.chain o.validateBinary, s.Indifferent o o' := by
  cases c with
  | binaryToAssembly =>
    obtain ⟨hcodec, hvalidate⟩ := h
    refine ⟨by rw [hvalidate], indifferent_chain ?_ fun _ => hcodec.targetEnv⟩
    simpa [Conversion.stages, Stage.Indifferent] using hcodec.settings_eq
  | assemblyToBinary =>
    obtain ⟨hcodec, hvalidate⟩ := h
    refine ⟨by rw [hvalidate], indifferent_chain ?_ fun _ => hcodec.targetEnv⟩
    simpa [Conversion.stages, Stage.Indifferent] using hcodec.settings_eq
  | binaryToSource =>
    obtain ⟨hreader, hsource, hvalidate, hverify, henv⟩ := h
    refine ⟨by rw [hvalidate], indifferent_chain ?_ henv⟩
    simpa [Conversion.stages] using ⟨hreader, hsource, hverify⟩
  | assemblyToSource =>
    obtain ⟨hcodec, hreader, hsource, hvalidate, hverify⟩ := h
    refine ⟨by rw [hvalidate], indifferent_chain ?_ fun _ => hcodec.targetEnv⟩
    simpa [Conversion.stages] using ⟨hcodec.settings_eq, hreader, hsource, hverify⟩
  | sourceToBinary =>
    rw [chain_of_source rfl, chain_of_source rfl]
    refine ⟨rfl, ?_⟩
    simpa [Conversion.stages, Stage.Indifferent] using BinaryOptions.SameOutput.settings_eq h
  | sourceToAssembly =>
    obtain ⟨hbinary, hcodec⟩ := h
    rw [chain_of_source rfl, chain_of_source rfl]
    refine ⟨rfl, ?_⟩
    simpa [Conversion.stages, Stage.Indifferent] using ⟨hbinary.settings_eq, hcodec.settings_eq⟩

/-- Source as input sees neither the reader of binaries nor validation. -/
theorem indifferent_of_source {c : Conversion} (h : c.input = .source) (o : PipelineOptions)
    (reader : ReaderOptions) (validate : Bool) :
    c.Indifferent { o with reader := reader, validateBinary := validate } o := by
  have hbinary : o.binary.SameOutput o.binary := ⟨rfl, rfl, rfl, rfl, rfl⟩
  cases c <;> cases h
  · exact hbinary
  · exact ⟨hbinary, rfl, rfl, rfl, rfl⟩

/-- **A conversion depends only on the options of its stages**, for every payload and whatever the
tools answer.  In particular no option of the reader, the list of allowed features among them, and
no validation has an effect on source as input. -/
theorem run_option_scope (tools : Toolchain M) :
    (∀ (o o' : PipelineOptions) (c : Conversion) (p : Payload), c.Indifferent o o' →
      run tools o c p = run tools o' c p) ∧
    (∀ (o : PipelineOptions) (reader : ReaderOptions) (validate : Bool) (c : Conversion)
      (p : Payload), c.input = .source →
        run tools { o with reader := reader, validateBinary := validate } c p
          = run tools o c p) := by
  have hmain : ∀ (o o' : PipelineOptions) (c : Conversion) (p : Payload), c.Indifferent o o' →
      run tools o c p = run tools o' c p := by
    intro o o' c p h
    obtain ⟨hchain, hstages⟩ := indifferent_of_conversion h
    exact run_congr hchain hstages p
  refine ⟨hmain, ?_⟩
  intro o reader validate c p hc
  exact hmain _ _ c p (indifferent_of_source hc o reader validate)

/-- Robustness is off, the codec shows names, and everything is looked at twice. -/
def carefulOptions : PipelineOptions where
  codec := { targetEnv := .vulkan1_0, friendlyNames := true, indent := true }
  reader := { allowedFeatures := .only [] [], strictCapabilities := true }
  source := { explicitTypes := true }
  binary := { boundsCheck := .readZeroSkipWrite, disableRobustness := true }
  validateBinary := true
  verifySourceRoundtrip := true

/-- Another way to the same policy, and the defaults otherwise. -/
def uncheckedOptions : PipelineOptions := { binary := { boundsCheck := .unchecked } }

/-- Source goes into the same binary with both, and a list that allows nothing does not hold it
up. -/
theorem run_option_scope_standard :
    Conversion.sourceToBinary.Indifferent carefulOptions uncheckedOptions ∧
    (∃ x, run Toolchain.standard carefulOptions .sourceToBinary (.text "const a: u32 = 1u;")
        = .ok x ∧
      run Toolchain.standard uncheckedOptions .sourceToBinary (.text "const a: u32 = 1u;")
        = .ok x) ∧
    run Toolchain.standard
        { reader := { allowedFeatures := .only [] [] }, validateBinary := true } .sourceToAssembly
        (.text "const a: u32 = 1u;")
      = run Toolchain.standard {} .sourceToAssembly (.text "const a: u32 = 1u;") := by
  obtain ⟨hscope, hsource⟩ := run_option_scope Toolchain.standard
  have hsame : Conversion.sourceToBinary.Indifferent carefulOptions uncheckedOptions :=
    ⟨rfl, rfl, rfl, rfl, rfl⟩
  refine ⟨hsame, ?_, hsource {} { allowedFeatures := .only [] [] } true .sourceToAssembly _ rfl⟩
  obtain ⟨x, hx⟩ := Reply.exists_ok
    (r := run Toolchain.standard carefulOptions .sourceToBinary (.text "const a: u32 = 1u;"))
    (by decide +kernel)
  refine ⟨x, hx, ?_⟩
  rw [← hscope _ _ _ _ hsame, hx]

end Pipeline

end ShaderConvert
