import Mathlib.Tactic
import ShaderConvert.Proofs.Pipeline.Execution
import ShaderConvert.Proofs.Utf8RoundTrip
import ShaderConvert.Proofs.WordRoundTrip
import ShaderConvert.Tools

/-
How an input is presented does not matter.

The same module can be handed over as words or as bytes, each in either byte order, and the same
text as a string or as its bytes.  A conversion cannot tell these apart (`Alike`): the run is the
same, a failure is rendered as the same text, and a cache is left in the same state.

* `alike_of_decodeInput` — payloads that are decoded to the same value are alike, if a failure would
  also quote the same text of both;
* `readsInputText_of_binary` — a conversion of a binary quotes nothing at all, also where the bytes
  of the binary happen to be a text;
* `run_presentation` — the presentations of a module and of a text.
-/
namespace ShaderConvert

/-! ### What a failure quotes -/

theorem Failure.renderWithInput_of_not_reads {f : Failure} (h : f.stage.readsInputText = false)
    (p : Payload) : f.renderWithInput p = f.render := by
  rw [renderWithInput]
  cases p.text? with
  | none => rfl
  | some t => simp [h]

theorem Failure.renderWithInput_congr {p q : Payload} (h : p.text? = q.text?) (f : Failure) :
    f.renderWithInput p = f.renderWithInput q := by
  rw [renderWithInput, renderWithInput, h]

theorem Payload.text?_encode (t : String) :
    (Payload.bytes (Utf8.encode t)).text? = (Payload.text t).text? := by
  simp only [Payload.text?, Utf8.decode_encode]

/-- No stage that works on a binary reads the caller's text. -/
theorem Conversion.readsInputText_of_binary {c : Conversion} (h : c.input = .binary)
    (validate : Bool) {s : Stage} (hs : s ∈ .input :: c.chain validate) :
    s.readsInputText = false := by
  cases c with
  | binaryToAssembly => cases validate <;> fin_cases hs <;> rfl
  | binaryToSource => cases validate <;> fin_cases hs <;> rfl
  | assemblyToBinary => cases h
  | assemblyToSource => cases h
  | sourceToBinary => cases h
  | sourceToAssembly => cases h

namespace Pipeline

variable {M : Type} {tools : Toolchain M} {o : PipelineOptions}

/-- The stage that fails is the decoding of the input or one of the chain. -/
theorem stage_mem_of_run_error {c : Conversion} {p : Payload} {f : Failure}
    (h : run tools o c p = .error f) : f.stage ∈ .input :: c.chain o.validateBinary := by
  have hrun := run_runsTo tools o c p
  rw [h] at hrun
  cases hrun with
  | refused _ => exact List.mem_cons_self
  | failed hl _ _ _ =>
    rw [hl]
    exact List.mem_append_right _ List.mem_cons_self

/-! ### Payloads that are alike -/

variable (tools o) in
/-- Payloads that a conversion cannot tell apart. -/
structure Alike (c : Conversion) (p q : Payload) : Prop where
  run : run tools o c p = run tools o c q
  rendered : ∀ f, Pipeline.run tools o c p = .error f → f.renderWithInput p = f.renderWithInput q
  published : ∀ cache, publishInto tools o cache c p = publishInto tools o cache c q

theorem alike_refl (c : Conversion) (p : Payload) : Alike tools o c p p :=
  ⟨rfl, fun _ _ => rfl, fun _ => rfl⟩

/-- **What is decoded to the same value is alike**, if failures quote the same text of both. -/
theorem alike_of_decodeInput {c : Conversion} {p q : Payload}
    (hd : (Stages.decodeInput c p : Except Error (StageValue M)) = Stages.decodeInput c q)
    (hr : ∀ f, run tools o c p = .error f → f.renderWithInput p = f.renderWithInput q) :
    Alike tools o c p q := by
  have hrun : run tools o c p = run tools o c q := by
    rw [run, run, hd]
  refine ⟨hrun, hr, fun cache => ?_⟩
  rw [publishInto, publishInto, ← hrun]
  cases hx : run tools o c p with
  | ok x => rfl
  | abort t => rfl
  | error f => simp only [hr f hx]

/-- Two presentations of a binary are alike as soon as they are decoded to the same words. -/
theorem alike_of_binary {c : Conversion} (h : c.input = .binary) {p q : Payload}
    (hd : (Stages.decodeInput c p : Except Error (StageValue M)) = Stages.decodeInput c q) :
    Alike tools o c p q := by
  refine alike_of_decodeInput hd fun f hf => ?_
  have hs := c.readsInputText_of_binary h o.validateBinary (stage_mem_of_run_error hf)
  rw [Failure.renderWithInput_of_not_reads hs, Failure.renderWithInput_of_not_reads hs]

/-! ### The presentations of a binary and of a text -/

/-- Words and their bytes, the least significant byte of each first. -/
theorem alike_toBytes {c : Conversion} (h : c.input = .binary) (ws : List Word) :
    Alike tools o c (.words ws) (.bytes (Words.toBytes ws)) := by
  apply alike_of_binary h
  rw [decodeInput_words h, decodeInput_bytes h, Words.readBytes_toBytes]
  rfl

/-- Words and the same words turned around. -/
theorem alike_map_swap {c : Conversion} (h : c.input = .binary) {ws : List Word}
    (hm : ws.head? = some Words.magic) :
    Alike tools o c (.words ws) (.words (ws.map Words.swap)) := by
  apply alike_of_binary h
  rw [decodeInput_words h, decodeInput_words h, Words.normalize_map_swap hm,
    Words.normalize_of_magic hm]

/-- Words and their bytes, the most significant byte of each first. -/
theorem alike_toBytesReversed {c : Conversion} (h : c.input = .binary) {ws : List Word}
    (hm : ws.head? = some Words.magic) :
    Alike tools o c (.words ws) (.bytes (Words.toBytesReversed ws)) := by
  apply alike_of_binary h
  rw [decodeInput_words h, decodeInput_bytes h, Words.readBytes_toBytesReversed hm,
    Words.normalize_of_magic hm]
  rfl

/-- A text and its bytes.  A failure quotes the same lines of both. -/
theorem alike_encode {c : Conversion} (h : c.input ≠ .binary) (t : String) :
    Alike tools o c (.text t) (.bytes (Utf8.encode t)) := by
  refine alike_of_decodeInput ?_ fun f _ => f.renderWithInput_congr (Payload.text?_encode t).symm
  rw [decodeInput_text h, decodeInput_bytes_of_text h, Utf8.decode_encode]

/-- **How an input is presented does not matter**, for all options and whatever the tools answer. -/
theorem run_presentation (tools : Toolchain M) (o : PipelineOptions) (c : Conversion) :
    (c.input = .binary → ∀ ws : List Word,
      Alike tools o c (.words ws) (.bytes (Words.toBytes ws)) ∧
      (ws.head? = some Words.magic →
        Alike tools o c (.words ws) (.words (ws.map Words.swap)) ∧
        Alike tools o c (.words ws) (.bytes (Words.toBytesReversed ws)))) ∧
    (c.input ≠ .binary → ∀ t : String,
      Alike tools o c (.text t) (.bytes (Utf8.encode t))) := by
  refine ⟨fun h ws => ⟨alike_toBytes h ws, fun hm => ⟨?_, ?_⟩⟩, fun h t => alike_encode h t⟩
  · exact alike_map_swap h hm
  · exact alike_toBytesReversed h hm

/-- A header without instructions in four presentations, and a text that is no source in two. -/
theorem run_presentation_standard :
    (∃ x, run Toolchain.standard {} .binaryToAssembly
        (.words [Words.magic, 0x00010000, 0, 1, 0]) = .ok x ∧
      run Toolchain.standard {} .binaryToAssembly
        (.bytes (Words.toBytes [Words.magic, 0x00010000, 0, 1, 0])) = .ok x ∧
      run Toolchain.standard {} .binaryToAssembly
        (.words ([Words.magic, 0x00010000, 0, 1, 0].map Words.swap)) = .ok x ∧
      run Toolchain.standard {} .binaryToAssembly
        (.bytes (Words.toBytesReversed [Words.magic, 0x00010000, 0, 1, 0])) = .ok x) ∧
    (∃ f, run Toolchain.standard {} .sourceToBinary (.text "fn") = .error f ∧
      run Toolchain.standard {} .sourceToBinary (.bytes (Utf8.encode "fn")) = .error f ∧
      f.renderWithInput (.text "fn") = f.renderWithInput (.bytes (Utf8.encode "fn"))) := by
  obtain ⟨hbytes, hswap⟩ := (run_presentation Toolchain.standard {} .binaryToAssembly).1 rfl
    [Words.magic, 0x00010000, 0, 1, 0]
  obtain ⟨hwords, hreversed⟩ := hswap rfl
  have htext := (run_presentation Toolchain.standard {} .sourceToBinary).2 (by decide) "fn"
  obtain ⟨x, hx⟩ := Reply.exists_ok
    (r := run Toolchain.standard {} .binaryToAssembly
      (.words [Words.magic, 0x00010000, 0, 1, 0])) (by decide +kernel)
  obtain ⟨f, hf⟩ := Reply.exists_error
    (r := run Toolchain.standard {} .sourceToBinary (.text "fn")) (by decide +kernel)
  refine ⟨⟨x, hx, ?_, ?_, ?_⟩, f, hf, ?_, htext.rendered f hf⟩
  · rw [← hbytes.run, hx]
  · rw [← hwords.run, hx]
  · rw [← hreversed.run, hx]
  · rw [← htext.run, hf]

end Pipeline

end ShaderConvert
