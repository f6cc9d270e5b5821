import Mathlib.Tactic
import ShaderConvert.Proofs.Pipeline.Composition
import ShaderConvert.Proofs.Pipeline.StageFailures

/-
Where a call of the tools that aborts is caught, and where it is not.

* `run_of_stage_abort` — an abort inside a stage is a failure of that stage, with its kind of error
  and one error record, and no later stage runs;
* `run_of_emitted` — what a run to source comes to once its text has been emitted: if the text is
  read once more, an error there is a warning, and the run succeeds with its text;
* `handed_of_exec_abort` — an abort that leaves a run comes from that second reading, which no stage
  stands around.

The main statement, `run_containment`, says so for every run; `run_reparse_aborts` is a binary whose
source makes the reader of this library abort.
-/
namespace ShaderConvert

namespace Pipeline

variable {M : Type} {tools : Toolchain M} {o : PipelineOptions}

/-! ### Stages that were handed a value -/

/-- Source is emitted by the last stage or not at all. -/
theorem emitSource_notMem_dropLast (c : Conversion) (validate : Bool) :
    .emitSource ∉ (c.chain validate).dropLast := by
  cases c <;> cases validate <;> decide

theorem emitSource_notMem_of_chain {c : Conversion} {validate : Bool} {l rest : List Stage}
    {s : Stage} (h : c.chain validate = l ++ s :: rest) : .emitSource ∉ l := by
  intro hmem
  refine emitSource_notMem_dropLast c validate ?_
  rw [h, List.dropLast_append_of_ne_nil (List.cons_ne_nil s rest)]
  exact List.mem_append_left _ hmem

/-- The stages that succeeded are a chain that runs to the value, if none of them emits source. -/
theorem exec_of_handed {c : Conversion} {p : Payload} {done : List Stage} {v : StageValue M}
    (h : Handed tools o c p done v) :
    ∃ l u, done = .input :: l ∧ Stages.decodeInput c p = .ok u ∧
      (.emitSource ∉ l → exec tools o l u = .ok ([], v)) := by
  induction h with
  | @input v hv => exact ⟨[], v, rfl, hv, fun _ => rfl⟩
  | @step done s v w hd hrun ih =>
    obtain ⟨l, u, rfl, hu, hexec⟩ := ih
    refine ⟨l ++ [s], u, rfl, hu, ?_⟩
    intro hn
    rw [List.mem_append, not_or, List.mem_singleton] at hn
    have hs : s ≠ .emitSource := fun he => hn.2 he.symm
    rw [exec_append_of_ok (hexec hn.1), exec_cons_of_ne hs, guarded_eq_ok.mpr hrun]
    rfl

/-- The last stage was handed a value, too. -/
theorem handed_of_append {c : Conversion} {p : Payload} {done : List Stage} {s : Stage}
    {w : StageValue M} (hne : done ≠ []) (h : Handed tools o c p (done ++ [s]) w) :
    ∃ v, Handed tools o c p done v ∧ Stages.run tools o s v = .ok w := by
  generalize hl : done ++ [s] = l at h
  cases h with
  | input hv =>
    cases done with
    | nil => exact absurd rfl hne
    | cons a done => simp at hl
  | step hd hrun =>
    obtain ⟨rfl, hs⟩ := List.append_inj' hl rfl
    cases hs
    exact ⟨_, hd, hrun⟩

/-! ### Aborts inside a stage -/

/-- **An abort inside a stage is a failure of that stage.** -/
theorem run_of_stage_abort {c : Conversion} {p : Payload} {done rest : List Stage} {s : Stage}
    {v : StageValue M} {t : String} (hl : .input :: c.chain o.validateBinary = done ++ s :: rest)
    (hd : Handed tools o c p done v) (ht : Stages.run tools o s v = .abort t) :
    run tools o c p = .error (.ofStage c s
      (.ofError (s.errorOf ("internal error in " ++ s.name ++ ": " ++ t)))) := by
  obtain ⟨l, u, rfl, hu, hexec⟩ := exec_of_handed hd
  have hchain : c.chain o.validateBinary = l ++ s :: rest := (List.cons.inj hl).2
  have hg : guarded s (Stages.run tools o s v)
      = .error (.ofError (s.errorOf ("internal error in " ++ s.name ++ ": " ++ t))) := by
    rw [ht, guarded]
  rw [run_eq, hu, hchain]
  simp only [exec_append_of_ok (hexec (emitSource_notMem_of_chain hchain)), exec,
    perform_eq_error.mpr hg, finish]

/-! ### Source that is read once more -/

/-- A run to source that has emitted `text`. -/
def emitted (o : PipelineOptions) (c : Conversion) (text : String) (ds : List Diagnostic) :
    Product :=
  ⟨.source text, ⟨c, .input :: c.chain o.validateBinary, .published, ⟨ds⟩⟩⟩

/-- The warning about a text that is not read once more. -/
def reparseWarning (f : StageFailure) : Diagnostic :=
  ⟨.warning, "generated WGSL does not re-parse: " ++ f.error.bare, none⟩

theorem chain_of_source_output {c : Conversion} (h : c.outputKind = .source) (validate : Bool) :
    c.chain validate = (c.chain validate).dropLast ++ [.emitSource] := by
  cases c <;> cases h <;> cases validate <;> rfl

/-- **Once source has been emitted, only reading it once more is left**: what is remarked there is
added to a result that stands, and an abort is handed on. -/
theorem run_of_emitted {c : Conversion} {p : Payload} {text : String}
    (hout : c.outputKind = .source)
    (h : Handed tools o c p (.input :: c.chain o.validateBinary) (.text text)) :
    run tools o c p =
      match remarks tools o .emitSource (.text text : StageValue M) with
      | .ok ds => .ok (emitted o c text ds)
      | .error f => .error (.ofStage c .emitSource f)
      | .abort t => .abort t := by
  have hchain := chain_of_source_output hout o.validateBinary
  rw [hchain, ← List.cons_append] at h
  obtain ⟨v, hv, hrun⟩ := handed_of_append (List.cons_ne_nil _ _) h
  obtain ⟨l, u, hl, hu, hexec⟩ := exec_of_handed hv
  obtain rfl := (List.cons.inj hl).2
  have hfirst := hexec (emitSource_notMem_dropLast c o.validateBinary)
  have hlast : exec tools o (c.chain o.validateBinary) u = exec tools o [.emitSource] v := by
    rw [hchain]
    exact exec_append_of_ok hfirst
  rw [run_eq, hu]
  simp only [hlast, exec, perform, guarded_eq_ok.mpr hrun]
  cases remarks tools o .emitSource (.text text : StageValue M) with
  | ok ds => simp [Reply.map, finish, hout, StageValue.toArtifact?, emitted]
  | error f => rfl
  | abort t => rfl

/-- Nothing is remarked about source that is not read once more or is read without a fault. -/
theorem remarks_emitSource_of_ok {text : String}
    (h : o.verifySourceRoundtrip = true → ∃ m, Stages.parseSource tools text = .ok m) :
    remarks tools o .emitSource (.text text : StageValue M) = .ok [] := by
  by_cases hv : o.verifySourceRoundtrip = true
  · obtain ⟨m, hm⟩ := h hv
    simp only [remarks, if_pos hv, verifySource, hm, Reply.map]
  · simp only [remarks, if_neg hv]

/-! ### Aborts that leave a run -/

/-- A step aborts only where the source it emitted is read once more. -/
theorem emitted_of_perform_abort {s : Stage} {v : StageValue M} {t : String}
    (h : perform tools o s v = .abort t) :
    ∃ text, s = .emitSource ∧ Stages.run tools o s v = .ok (.text text) ∧
      o.verifySourceRoundtrip = true ∧ Stages.parseSource tools text = .abort t := by
  rw [perform] at h
  split at h
  · cases h
  · next w hw =>
    have hr : remarks tools o s w = .abort t := Reply.map_eq_abort.mp h
    unfold remarks at hr
    split at hr
    · next text =>
      split_ifs at hr with hv
      exact ⟨text, rfl, guarded_eq_ok.mp hw, hv,
        verifySource_eq_abort (Reply.map_eq_abort.mp hr)⟩
    · cases hr

/-- **A chain that aborts has emitted source**, and aborts where that is read once more. -/
theorem handed_of_exec_abort {c : Conversion} {p : Payload} {done l : List Stage}
    {v : StageValue M} {t : String} (hd : Handed tools o c p done v)
    (h : exec tools o l v = .abort t) :
    ∃ l₁ l₂ text, l = l₁ ++ .emitSource :: l₂ ∧
      Handed tools o c p (done ++ (l₁ ++ [.emitSource])) (.text text) ∧
      o.verifySourceRoundtrip = true ∧ Stages.parseSource tools text = .abort t := by
  induction l generalizing done v with
  | nil => cases h
  | cons s l ih =>
    rw [exec] at h
    split at h
    · cases h
    · next u hu =>
      cases h
      obtain ⟨text, rfl, hrun, hv, hp⟩ := emitted_of_perform_abort hu
      exact ⟨[], l, text, rfl, .step hd hrun, hv, hp⟩
    · next ds w hw =>
      obtain ⟨hrun, -⟩ := perform_eq_ok.mp hw
      obtain ⟨l₁, l₂, text, rfl, hh, hv, hp⟩ :=
        ih (.step hd hrun) (Reply.map_eq_abort.mp h)
      rw [List.append_assoc] at hh
      exact ⟨s :: l₁, l₂, text, rfl, hh, hv, hp⟩

theorem outputKind_of_chain {c : Conversion} {validate : Bool} {l : List Stage}
    (h : c.chain validate = l ++ [.emitSource]) : c.outputKind = .source := by
  have hmem : .emitSource ∈ c.chain validate := by
    rw [h]
    exact List.mem_append_right _ List.mem_cons_self
  revert hmem
  cases c <;> cases validate <;> decide

/-- **A run aborts exactly where its emitted source is read once more and that aborts.** -/
theorem run_eq_abort_iff {c : Conversion} {p : Payload} {t : String} :
    run tools o c p = .abort t ↔
      o.verifySourceRoundtrip = true ∧ c.outputKind = .source ∧
        ∃ text, Handed tools o c p (.input :: c.chain o.validateBinary) (.text text) ∧
          Stages.parseSource tools text = .abort t := by
  constructor
  · intro h
    rw [run_eq] at h
    cases hd : (Stages.decodeInput c p : Except Error (StageValue M)) with
    | error e =>
      rw [hd] at h
      cases h
    | ok v =>
      rw [hd] at h
      rcases hx : exec tools o (c.chain o.validateBinary) v with ⟨ds, w⟩ | ⟨s, f⟩ | u
      · obtain ⟨a, -, -, hfin⟩ := finish_of_exec_ok hd hx
        simp only [hx, hfin] at h
        cases h
      · simp only [hx] at h
        cases h
      · simp only [hx, finish] at h
        cases h
        obtain ⟨l₁, l₂, text, hl, hh, hv, hp⟩ := handed_of_exec_abort (.input hd) hx
        -- source is emitted at the end of the chain, so nothing comes behind it
        obtain rfl : l₂ = [] := by
          by_contra hne
          have hlast := emitSource_notMem_dropLast c o.validateBinary
          rw [hl, List.dropLast_append_of_ne_nil (List.cons_ne_nil _ _),
            List.dropLast_cons_of_ne_nil hne] at hlast
          exact hlast (List.mem_append_right _ List.mem_cons_self)
        rw [← hl] at hh
        exact ⟨hv, outputKind_of_chain hl, text, hh, hp⟩
  · rintro ⟨hv, hout, text, hh, hp⟩
    rw [run_of_emitted hout hh]
    simp only [remarks, if_pos hv, verifySource, hp, Reply.map]

/-- **All aborts of the tools are caught but one.**  An abort inside a stage, whatever stage of
whatever chain, is a failure that names the stage, with its kind of error and one error record.  If
emitted source is read once more and that fails, the run succeeds with its text and one warning.  A
run aborts if and only if that second reading does. -/
theorem run_containment (tools : Toolchain M) (o : PipelineOptions) (c : Conversion)
    (p : Payload) :
    (∀ done s rest v t, .input :: c.chain o.validateBinary = done ++ s :: rest →
      Handed tools o c p done v → Stages.run tools o s v = .abort t →
        ∃ f, run tools o c p = .error f ∧ f.conversion = c ∧ f.stage = s ∧
          f.error.kind = s.errorKind ∧
          ∃ d, f.diagnostics.records = [d] ∧ d.severity = .error) ∧
    (∀ text, c.outputKind = .source →
      Handed tools o c p (.input :: c.chain o.validateBinary) (.text text) →
        ((o.verifySourceRoundtrip = true → ∃ m, Stages.parseSource tools text = .ok m) →
          run tools o c p = .ok (emitted o c text [])) ∧
        (∀ f, o.verifySourceRoundtrip = true → Stages.parseSource tools text = .error f →
          run tools o c p = .ok (emitted o c text [reparseWarning f]))) ∧
    (∀ t, run tools o c p = .abort t ↔
      o.verifySourceRoundtrip = true ∧ c.outputKind = .source ∧
        ∃ text, Handed tools o c p (.input :: c.chain o.validateBinary) (.text text) ∧
          Stages.parseSource tools text = .abort t) := by
  refine ⟨?_, ?_, fun t => run_eq_abort_iff⟩
  · intro done s rest v t hl hd ht
    refine ⟨_, run_of_stage_abort hl hd ht, rfl, rfl, kind_errorOf s _, _, rfl, rfl⟩
  · intro text hout hh
    refine ⟨fun hok => ?_, fun f hv hf => ?_⟩
    · rw [run_of_emitted hout hh, remarks_emitSource_of_ok hok]
    · rw [run_of_emitted hout hh]
      simp only [remarks, if_pos hv, verifySource, hf, Reply.map, reparseWarning]

/-- A vector of three made of two numbers, as an operand of a function of constants. -/
def shortVectorText : String := "const a = min(vec3<u32>(1u, 2u), vec3<u32>(1u, 2u, 3u));"

/-- As input, such a text makes the reader of source abort, and the run fails there. -/
theorem run_containment_standard :
    ∃ t f, Stages.run Toolchain.standard {} .parseSource (.text shortVectorText) = .abort t ∧
      run Toolchain.standard {} .sourceToBinary (.text shortVectorText) = .error f ∧
      f.stage = .parseSource ∧ f.error.kind = .parse ∧
      ∃ d, f.diagnostics.records = [d] ∧ d.severity = .error := by
  obtain ⟨hstage, -⟩ :=
    run_containment Toolchain.standard {} .sourceToBinary (.text shortVectorText)
  obtain ⟨t, ht⟩ := Reply.exists_abort
    (r := Stages.run Toolchain.standard {} .parseSource (.text shortVectorText))
    (by decide +kernel)
  obtain ⟨f, hf, -, hs, hk, hd⟩ :=
    hstage [.input] .parseSource [.emitBinary] _ t rfl (.input rfl) ht
  exact ⟨t, f, ht, hf, hs, hk, hd⟩

/-- A module with a structure that is called like a type of vectors.  In its source, the first
operand of `min` reads as a vector of three made of two numbers. -/
def shadowingWords : List Word :=
  [Words.magic, 0x00010500, 0x00070000, 20, 0, 131089, 1, 393227, 1, 1280527431, 1685353262,
    808793134, 0, 196622, 0, 1, 262149, 3, 862152054, 117, 262150, 3, 0, 120, 262150, 3, 1, 121,
    131091, 4, 196641, 5, 4, 262165, 6, 32, 0, 262167, 7, 6, 2, 262167, 8, 6, 3, 262174, 3, 7, 6,
    262176, 9, 6, 8, 262203, 9, 10, 6, 262187, 6, 11, 1, 327724, 7, 13, 11, 11, 393260, 8, 14, 11,
    11, 11, 327724, 3, 15, 13, 11, 327734, 4, 2, 0, 5, 131320, 16, 327761, 7, 17, 15, 0, 327760, 8,
    18, 17, 11, 458764, 8, 19, 1, 38, 18, 14, 196670, 10, 19, 65789, 65592]

/-- The same abort, where emitted source is read once more, leaves the run. -/
theorem run_reparse_aborts :
    run Toolchain.standard { verifySourceRoundtrip := true } .binaryToSource (.words shadowingWords)
      = .abort "index out of bounds: the len is 2 but the index is 2" := by
  decide +kernel

end Pipeline

end ShaderConvert
