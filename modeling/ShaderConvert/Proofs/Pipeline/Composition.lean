import Mathlib.Tactic
import ShaderConvert.Proofs.Pipeline.Execution
import ShaderConvert.Proofs.WordRoundTrip
import ShaderConvert.Tools

/-
Direct conversions and their two-step compositions.

Assembly can be turned into source at once, or into a binary first and that binary into source; a
source text can be turned into assembly at once or by way of its binary.  Both ways run the same
stages on the same values (`exec_append_of_ok`), so they agree (`Agree`) in all but the name of the
conversion and the list of stages:

* the binary in the middle is handed on unchanged, because it does not begin with the magic number
  of the other byte order (`Toolchain.WritesNative`, `normalize_of_head`);
* a validation that the first step did on the binary is done once more by the second, with the same
  answer; a binary made from source is validated by the second step only, and there the two-step way
  may fail where the direct one does not.

The main statement is `run_composition`; the tools of this library meet its assumption, since all
they write begins with the magic number (`standard_writesNative`).
-/
namespace ShaderConvert

/-- Binaries that the tools write do not begin with the magic number of the other byte order. -/
structure Toolchain.WritesNative {M : Type} (tools : Toolchain M) : Prop where
  assemble : ∀ o s ws, tools.assemble o s = .ok ws → ws.head? ≠ some Words.swappedMagic
  emitBinary : ∀ o m ws, tools.emitBinary o m = .ok ws → ws.head? ≠ some Words.swappedMagic

/-! ### Binaries of this library begin with the magic number -/

theorem exists_of_bind_eq_ok {ε α β : Type} {x : Except ε α} {f : α → Except ε β} {b : β}
    (h : x >>= f = .ok b) : ∃ a, x = .ok a ∧ f a = .ok b := by
  cases x with
  | error e => cases h
  | ok a => exact ⟨a, rfl, h⟩

theorem Spirv.Assembly.head_assemble {minor : ℕ} {keep : Bool} {t : String} {ws : List Word}
    (h : assemble minor keep t = .ok ws) : ws.head? = some Words.magic := by
  unfold assemble at h
  -- Whether numbers are kept decides how the text is read, not what is written before it.
  split at h
  all_goals
    obtain ⟨kept, -, h⟩ := exists_of_bind_eq_ok h
    obtain ⟨⟨c, is⟩, -, h⟩ := exists_of_bind_eq_ok h
    cases h
    rfl

theorem Spirv.head_emitBinary {o : WriteSettings} {m : Ir.Module} {info : Ir.ModuleInfo}
    {ws : List Word} (h : emitBinary o m info = .ok ws) : ws.head? = some Words.magic := by
  unfold emitBinary at h
  split_ifs at h
  obtain ⟨⟨u, d⟩, -, h⟩ := exists_of_bind_eq_ok h
  cases h
  rfl

theorem standard_writesNative : Toolchain.standard.WritesNative where
  assemble o s ws h := by
    have hc : Codec.assemble o s = .ok ws := h
    unfold Codec.assemble at hc
    split at hc
    · next x hx =>
      cases hc
      rw [Spirv.Assembly.head_assemble hx]
      decide
    · cases hc
  emitBinary o m ws h := by
    simp only [Toolchain.standard] at h
    split at h
    · cases h
    · next info hinfo =>
      have hx := Reply.mapError_eq_ok.mp h
      cases he : Spirv.emitBinary o m info with
      | error e =>
        rw [he] at hx
        cases hx
      | ok x =>
        rw [he] at hx
        cases hx
        rw [Spirv.head_emitBinary he]
        decide

theorem Stages.assemble_eq_ok {M : Type} {tools : Toolchain M} {o : CodecOptions} {t : String}
    {ws : List Word} (h : assemble tools o t = .ok ws) :
    tools.assemble o.assembleSettings t = .ok ws := by
  unfold assemble at h
  split at h
  · cases h
  · exact Reply.mapError_eq_ok.mp h

namespace Pipeline

variable {M : Type} {tools : Toolchain M} {o : PipelineOptions}

/-- Two runs with the same artifact and remarks, or the same failure. -/
inductive Agree : Reply Failure Product → Reply Failure Product → Prop where
  | ok {x y : Product} (ha : x.artifact = y.artifact)
      (hd : x.report.diagnostics = y.report.diagnostics) : Agree (.ok x) (.ok y)
  | error {f g : Failure} (hs : f.stage = g.stage) (he : f.error = g.error)
      (hd : f.diagnostics = g.diagnostics) : Agree (.error f) (.error g)
  | abort (t : String) : Agree (.abort t) (.abort t)

/-- Conversions to one format make the same of a chain that ended the same way. -/
theorem agree_finish {c c' : Conversion} (hk : c.outputKind = c'.outputKind)
    (hl : (c.chain o.validateBinary).getLast? = (c'.chain o.validateBinary).getLast?)
    (r : Reply (Stage × StageFailure) (List Diagnostic × StageValue M)) :
    Agree (finish o c r) (finish o c' r) := by
  rcases r with ⟨ds, w⟩ | ⟨s, f⟩ | t
  · simp only [finish, ← hk]
    cases w.toArtifact? c.outputKind with
    | some a => exact .ok rfl rfl
    | none =>
      refine .error ?_ rfl rfl
      simp only [Failure.ofStage, List.getLastD_eq_getLast?, List.getLast?_cons, hl]
  · exact .error rfl rfl rfl
  · exact .abort t

/-! ### Chains cut in two -/

theorem remarks_of_ne {s : Stage} (hs : s ≠ .emitSource) (w : StageValue M) :
    remarks tools o s w = .ok [] := by
  cases s <;> first | rfl | exact absurd rfl hs

/-- A stage about which nothing is remarked hands its value to the rest of the chain. -/
theorem exec_cons_of_ne {s : Stage} (hs : s ≠ .emitSource) (l : List Stage) (v : StageValue M) :
    exec tools o (s :: l) v =
      match guarded s (Stages.run tools o s v) with
      | .error f => .error (s, f)
      | .ok w => exec tools o l w := by
  rw [exec, perform]
  cases guarded s (Stages.run tools o s v) with
  | error f => rfl
  | ok w =>
    simp only [remarks_of_ne hs, Reply.map, List.nil_append]
    cases exec tools o l w <;> rfl

theorem exec_append_of_ok {l₁ l₂ : List Stage} {v w : StageValue M}
    (h : exec tools o l₁ v = .ok ([], w)) : exec tools o (l₁ ++ l₂) v = exec tools o l₂ w := by
  rw [exec_append, h]
  simp only [Reply.bind, List.nil_append]
  cases exec tools o l₂ w <;> rfl

theorem exec_append_of_error {l₁ l₂ : List Stage} {v : StageValue M} {e : Stage × StageFailure}
    (h : exec tools o l₁ v = .error e) : exec tools o (l₁ ++ l₂) v = .error e := by
  rw [exec_append, h]
  rfl

theorem exec_silent {l : List Stage} (hl : .emitSource ∉ l) {v w : StageValue M}
    {ds : List Diagnostic} (h : exec tools o l v = .ok (ds, w)) : ds = [] := by
  induction l generalizing v with
  | nil =>
    cases h
    rfl
  | cons s l ih =>
    rw [exec_cons_of_ne (fun hs => hl (hs ▸ List.mem_cons_self))] at h
    split at h
    · cases h
    · exact ih (fun hm => hl (List.mem_cons_of_mem s hm)) h

/-! ### Words in the order of this machine -/

/-- Words that do not begin with the magic number of the other byte order, or no words. -/
def Native : StageValue M → Prop
  | .words ws => ws.head? ≠ some Words.swappedMagic
  | _ => True

/-- No stage turns words around. -/
theorem native_of_run (hn : tools.WritesNative) {s : Stage} {v w : StageValue M}
    (hv : Native v) (h : Stages.run tools o s v = .ok w) : Native w := by
  cases s <;> cases v <;> simp only [Stages.run, Reply.map_eq_ok, reduceCtorEq] at h
  all_goals
    obtain ⟨x, hx, rfl⟩ := h
  · exact hn.assemble _ _ _ (Stages.assemble_eq_ok hx)
  · trivial
  · exact hv
  · trivial
  · trivial
  · trivial
  · exact hn.emitBinary _ _ _ (Reply.mapError_eq_ok.mp hx)

theorem native_of_exec (hn : tools.WritesNative) {l : List Stage} {v w : StageValue M}
    {ds : List Diagnostic} (hv : Native v) (h : exec tools o l v = .ok (ds, w)) : Native w := by
  induction l generalizing v ds with
  | nil =>
    cases h
    exact hv
  | cons s l ih =>
    obtain ⟨x, es, es', hrun, -, hx, -⟩ := exec_cons_eq_ok h
    exact ih (native_of_run hn hv hrun) hx

/-! ### Whole conversions -/

theorem decodeInput_congr {c c' : Conversion} (h : c.input = c'.input) (p : Payload) :
    (Stages.decodeInput c p : Except Error (StageValue M)) = Stages.decodeInput c' p := by
  unfold Stages.decodeInput
  rw [h]

/-- A conversion that begins with the chain of another fails with it. -/
theorem agree_of_run_error {c c₁ : Conversion} {l : List Stage} {p : Payload} {f : Failure}
    (hin : c.input = c₁.input)
    (hl : c.chain o.validateBinary = c₁.chain o.validateBinary ++ l)
    (h : run tools o c₁ p = .error f) : Agree (.error f) (run tools o c p) := by
  rw [run_eq] at h ⊢
  rw [decodeInput_congr hin, hl]
  cases hd : (Stages.decodeInput c₁ p : Except Error (StageValue M)) with
  | error e =>
    simp only [hd] at h
    cases h
    exact .error rfl rfl rfl
  | ok v =>
    simp only [hd] at h
    rcases hx : exec tools o (c₁.chain o.validateBinary) v with ⟨ds, w⟩ | ⟨s, g⟩ | t
    · obtain ⟨a, -, -, hfin⟩ := finish_of_exec_ok hd hx
      rw [hx, hfin] at h
      cases h
    · rw [hx] at h
      cases h
      simp only [exec_append_of_error hx]
      exact .error rfl rfl rfl
    · rw [hx] at h
      cases h

theorem emitSource_notMem_chain {c : Conversion} (h : c.outputKind = .binary) (validate : Bool) :
    .emitSource ∉ c.chain validate := by
  cases c <;> cases h <;> cases validate <;> decide

/-- The binary of a run is what its chain ends in, and nothing is remarked on the way. -/
theorem exec_of_run_ok (hn : tools.WritesNative) {c : Conversion} {t : String} {x : Product}
    (hout : c.outputKind = .binary) (hin : c.input ≠ .binary)
    (h : run tools o c (.text t) = .ok x) :
    ∃ ws, x.artifact = .binary ws ∧ Words.normalize ws = ws ∧
      exec tools o (c.chain o.validateBinary) (.text t) = .ok ([], .words ws) := by
  have hd := decodeInput_text (M := M) hin t
  rw [run_eq, hd] at h
  rcases hx : exec tools o (c.chain o.validateBinary) (.text t) with ⟨ds, w⟩ | ⟨s, g⟩ | u
  · obtain ⟨a, ha, -, hfin⟩ := finish_of_exec_ok hd hx
    have hfx := hfin.symm.trans ((congrArg (finish o c) hx.symm).trans h)
    cases hfx
    rw [hout] at ha
    rcases w with ws | u | m
    · cases ha
      have hw : Native (.words ws : StageValue M) :=
        native_of_exec hn (v := .text t) trivial hx
      refine ⟨ws, rfl, Words.normalize_of_head hw, ?_⟩
      rw [exec_silent (emitSource_notMem_chain hout _) hx]
    · cases ha
    · cases ha
  · simp only [hx] at h
    cases h
  · simp only [hx] at h
    cases h

/-- Words that are handed on to a second step are decoded to themselves. -/
theorem run_words {c : Conversion} (hin : c.input = .binary) {ws : List Word}
    (hw : Words.normalize ws = ws) :
    run tools o c (.words ws)
      = finish o c (exec tools o (c.chain o.validateBinary) (.words ws)) := by
  rw [run_eq, decodeInput_words hin, hw]

/-- Direct conversion after a first step with the words `ws`. -/
theorem run_after {c c₁ : Conversion} {l : List Stage} {t : String} {ws : List Word}
    (hin : c.input ≠ .binary)
    (hl : c.chain o.validateBinary = c₁.chain o.validateBinary ++ l)
    (h : exec tools o (c₁.chain o.validateBinary) (.text t) = .ok ([], .words ws)) :
    run tools o c (.text t) = finish o c (exec tools o l (.words ws)) := by
  rw [run_eq, decodeInput_text hin, hl]
  simp only [exec_append_of_ok h]

variable (tools o) in
/-- Validation hands on the words it accepts. -/
theorem exec_validate (l : List Stage) (ws : List Word) :
    exec tools o (.validate :: l) (.words ws) = exec tools o l (.words ws) ∨
      ∃ f, exec tools o (.validate :: l) (.words ws) = .error (.validate, f) := by
  rw [exec_cons_of_ne (by decide)]
  cases hg : guarded .validate (Stages.run tools o .validate (.words ws)) with
  | error f => exact .inr ⟨f, rfl⟩
  | ok w =>
    obtain ⟨u, -, rfl⟩ := Reply.map_eq_ok.mp (guarded_eq_ok.mp hg)
    exact .inl rfl

/-- A binary that was validated after assembly passes once more. -/
theorem exec_validate_of_assembled {t : String} {ws : List Word}
    (h : exec tools o [.assemble, .validate] (.text t) = .ok ([], .words ws)) :
    exec tools o [.validate] (.words ws) = .ok ([], .words ws) := by
  rw [exec_cons_of_ne (by decide)] at h
  split at h
  · cases h
  · next w hw =>
    obtain ⟨ws', -, rfl⟩ := Reply.map_eq_ok.mp (guarded_eq_ok.mp hw)
    rcases exec_validate tools o [] ws' with hv | ⟨f, hv⟩
    · rw [hv] at h
      cases h
      exact hv
    · rw [hv] at h
      cases h

/-- The direct chain begins with that of the first step. -/
theorem chain_assemblyToSource (validate : Bool) :
    Conversion.chain validate .assemblyToSource
      = Conversion.chain validate .assemblyToBinary ++ [.parseBinary, .emitSource] := by
  cases validate <;> rfl

theorem chain_sourceToAssembly (validate : Bool) :
    Conversion.chain validate .sourceToAssembly
      = Conversion.chain validate .sourceToBinary ++ [.disassemble] := by
  cases validate <;> rfl

/-- Source from assembly, at once and by way of the binary `ws`. -/
theorem agree_assemblyToSource {t : String} {ws : List Word} (hw : Words.normalize ws = ws)
    (h : exec tools o (Conversion.chain o.validateBinary .assemblyToBinary) (.text t)
      = .ok ([], .words ws)) :
    Agree (run tools o .assemblyToSource (.text t)) (run tools o .binaryToSource (.words ws)) := by
  have hchain : exec tools o (Conversion.chain o.validateBinary .binaryToSource) (.words ws)
      = exec tools o [.parseBinary, .emitSource] (.words ws) := by
    cases hv : o.validateBinary with
    | false => rfl
    | true =>
      rw [hv] at h
      exact exec_append_of_ok (exec_validate_of_assembled h)
  rw [run_after (by decide) (chain_assemblyToSource _) h, run_words rfl hw, hchain]
  refine agree_finish (by rfl) ?_ _
  cases o.validateBinary <;> rfl

/-- Assembly from source, at once and by way of the binary `ws`, which only the second step
validates. -/
theorem agree_sourceToAssembly {t : String} {ws : List Word} (hw : Words.normalize ws = ws)
    (h : exec tools o (Conversion.chain o.validateBinary .sourceToBinary) (.text t)
      = .ok ([], .words ws)) :
    Agree (run tools o .sourceToAssembly (.text t)) (run tools o .binaryToAssembly (.words ws)) ∨
      o.validateBinary = true ∧
        ∃ f, run tools o .binaryToAssembly (.words ws) = .error f ∧ f.stage = .validate := by
  have hlast : (Conversion.chain o.validateBinary .sourceToAssembly).getLast?
      = (Conversion.chain o.validateBinary .binaryToAssembly).getLast? := by
    cases o.validateBinary <;> rfl
  have hchain : exec tools o (Conversion.chain o.validateBinary .binaryToAssembly) (.words ws)
      = exec tools o [.disassemble] (.words ws) ∨
      o.validateBinary = true ∧ ∃ f,
        exec tools o (Conversion.chain o.validateBinary .binaryToAssembly) (.words ws)
          = .error (.validate, f) := by
    cases hv : o.validateBinary with
    | false => exact .inl rfl
    | true =>
      rcases exec_validate tools o [.disassemble] ws with hx | hx
      · exact .inl hx
      · exact .inr ⟨rfl, hx⟩
  rw [run_after (by decide) (chain_sourceToAssembly _) h, run_words rfl hw]
  rcases hchain with hx | ⟨hv, f, hx⟩
  · rw [hx]
    exact .inl (agree_finish (by rfl) hlast _)
  · rw [hx]
    exact .inr ⟨hv, _, rfl, rfl⟩

/-- **Direct conversions agree with their two-step compositions**, on success and on every way to
fail, for all options and texts and whatever the tools answer; that both abort is possible only with
tools that do not answer. -/
theorem run_composition (tools : Toolchain M) (hn : tools.WritesNative) (o : PipelineOptions)
    (t : String) :
    (∀ f, run tools o .assemblyToBinary (.text t) = .error f →
      Agree (.error f) (run tools o .assemblyToSource (.text t))) ∧
    (∀ x, run tools o .assemblyToBinary (.text t) = .ok x →
      ∃ ws, x.artifact = .binary ws ∧
        Agree (run tools o .assemblyToSource (.text t))
          (run tools o .binaryToSource (.words ws))) ∧
    (∀ f, run tools o .sourceToBinary (.text t) = .error f →
      Agree (.error f) (run tools o .sourceToAssembly (.text t))) ∧
    (∀ x, run tools o .sourceToBinary (.text t) = .ok x →
      ∃ ws, x.artifact = .binary ws ∧
        (Agree (run tools o .sourceToAssembly (.text t))
          (run tools o .binaryToAssembly (.words ws)) ∨
        o.validateBinary = true ∧
          ∃ f, run tools o .binaryToAssembly (.words ws) = .error f ∧ f.stage = .validate)) ∧
    (tools.Answers → ∀ c p u, run tools o c p ≠ .abort u) := by
  refine ⟨fun f hf => ?_, fun x hx => ?_, fun f hf => ?_, fun x hx => ?_, fun ha c p u hu => ?_⟩
  · exact agree_of_run_error (by rfl) (chain_assemblyToSource _) hf
  · obtain ⟨ws, ha, hw, h⟩ := exec_of_run_ok hn rfl (by decide) hx
    exact ⟨ws, ha, agree_assemblyToSource hw h⟩
  · exact agree_of_run_error (by rfl) (chain_sourceToAssembly _) hf
  · obtain ⟨ws, ha, hw, h⟩ := exec_of_run_ok hn rfl (by decide) hx
    exact ⟨ws, ha, agree_sourceToAssembly hw h⟩
  · exact not_answers_of_run_abort hu ha

/-- Both ways on a text that can be assembled and on one that is a source. -/
theorem run_composition_standard :
    Toolchain.standard.WritesNative ∧
    (∃ x ws, run Toolchain.standard {} .assemblyToBinary (.text "OpCapability Shader") = .ok x ∧
      x.artifact = .binary ws ∧
      Agree (run Toolchain.standard {} .assemblyToSource (.text "OpCapability Shader"))
        (run Toolchain.standard {} .binaryToSource (.words ws))) ∧
    (∃ f, run Toolchain.standard {} .sourceToBinary (.text "OpCapability Shader") = .error f ∧
      Agree (.error f)
        (run Toolchain.standard {} .sourceToAssembly (.text "OpCapability Shader"))) ∧
    (∃ f, run Toolchain.standard {} .assemblyToBinary (.text "") = .error f ∧
      Agree (.error f) (run Toolchain.standard {} .assemblyToSource (.text ""))) ∧
    (∃ x ws, run Toolchain.standard {} .sourceToBinary (.text "") = .ok x ∧
      x.artifact = .binary ws ∧
      Agree (run Toolchain.standard {} .sourceToAssembly (.text ""))
        (run Toolchain.standard {} .binaryToAssembly (.words ws))) := by
  obtain ⟨-, hok, herr, -, -⟩ :=
    run_composition Toolchain.standard standard_writesNative {} "OpCapability Shader"
  obtain ⟨herr', -, -, hok', -⟩ := run_composition Toolchain.standard standard_writesNative {} ""
  refine ⟨standard_writesNative, ?_, ?_, ?_, ?_⟩
  · obtain ⟨x, hx⟩ := Reply.exists_ok
      (r := run Toolchain.standard {} .assemblyToBinary (.text "OpCapability Shader"))
      (by decide +kernel)
    obtain ⟨ws, hws, hagree⟩ := hok x hx
    exact ⟨x, ws, hx, hws, hagree⟩
  · obtain ⟨f, hf⟩ := Reply.exists_error
      (r := run Toolchain.standard {} .sourceToBinary (.text "OpCapability Shader"))
      (by decide +kernel)
    exact ⟨f, hf, herr f hf⟩
  · obtain ⟨f, hf⟩ := Reply.exists_error
      (r := run Toolchain.standard {} .assemblyToBinary (.text "")) (by decide +kernel)
    exact ⟨f, hf, herr' f hf⟩
  · obtain ⟨x, hx⟩ := Reply.exists_ok
      (r := run Toolchain.standard {} .sourceToBinary (.text "")) (by decide +kernel)
    obtain ⟨ws, hws, hagree | ⟨hv, -⟩⟩ := hok' x hx
    · exact ⟨x, ws, hx, hws, hagree⟩
    · cases hv

end Pipeline

end ShaderConvert
