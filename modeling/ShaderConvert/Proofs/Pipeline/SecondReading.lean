import Mathlib.Tactic
import ShaderConvert.Proofs.Pipeline.Containment
import ShaderConvert.Tools

/-
Reading emitted source once more only adds a warning.

A caller may ask for the source that a conversion emits to be read once more.  A run with that and
one without it go in step, stage by stage, as long as the tools answer:

* `perform_in_step` — a stage fails in both or gives the same value in both, and only the first run
  can have something to remark;
* `exec_in_step` — and so for every chain;
* `remarks_of_last` — source is emitted last, so the remarks are about the text that is returned.

The main statement is `second_reading_only_warns`.
-/
namespace ShaderConvert

/-- The options with the second reading of emitted source switched on or off. -/
def PipelineOptions.withSecondReading (o : PipelineOptions) (reread : Bool) : PipelineOptions :=
  { o with verifySourceRoundtrip := reread }

namespace Pipeline

variable {M : Type} {tools : Toolchain M} {o : PipelineOptions}

/-! ### Two runs in step -/

/-- No stage looks at the switch. -/
theorem stageRun_withSecondReading (reread : Bool) (s : Stage) (v : StageValue M) :
    Stages.run tools (o.withSecondReading reread) s v = Stages.run tools o s v := by
  cases s <;> cases v <;> rfl

theorem remarks_withoutSecondReading (s : Stage) (w : StageValue M) :
    remarks tools (o.withSecondReading false) s w = .ok [] := by
  obtain h | ⟨hv, -⟩ : remarks tools (o.withSecondReading false) s w = .ok [] ∨ _ :=
    remarks_cases s w
  · exact h
  · cases hv

theorem exists_remarks (ha : tools.Answers) (s : Stage) (w : StageValue M) :
    ∃ ds, remarks tools o s w = .ok ds := by
  rcases h : remarks tools o s w with ds | f | t
  · exact ⟨ds, rfl⟩
  · exact absurd h remarks_ne_error
  · obtain ⟨-, text, ht⟩ := remarks_eq_abort h
    exact absurd ht (Stages.parseSource_ne_abort ha text t)

/-- **One stage**: the two runs fail alike, or they go on with the same value. -/
theorem perform_in_step (ha : tools.Answers) (s : Stage) (v : StageValue M) :
    (∃ f, perform tools (o.withSecondReading true) s v = .error f ∧
      perform tools (o.withSecondReading false) s v = .error f) ∨
    ∃ ds w, perform tools (o.withSecondReading true) s v = .ok (ds, w) ∧
      perform tools (o.withSecondReading false) s v = .ok ([], w) := by
  cases hg : guarded s (Stages.run tools o s v) with
  | error f =>
    left
    refine ⟨f, perform_eq_error.mpr ?_, perform_eq_error.mpr ?_⟩
    · rw [stageRun_withSecondReading, hg]
    · rw [stageRun_withSecondReading, hg]
  | ok w =>
    right
    have hw := guarded_eq_ok.mp hg
    obtain ⟨ds, hds⟩ := exists_remarks (o := o.withSecondReading true) ha s w
    refine ⟨ds, w, perform_eq_ok.mpr ⟨?_, hds⟩, perform_eq_ok.mpr ⟨?_, ?_⟩⟩
    · rw [stageRun_withSecondReading, hw]
    · rw [stageRun_withSecondReading, hw]
    · exact remarks_withoutSecondReading s w

/-- **A whole chain**: the two runs fail alike at one stage, or they come to the same value. -/
theorem exec_in_step (ha : tools.Answers) (l : List Stage) (v : StageValue M) :
    (∃ e, exec tools (o.withSecondReading true) l v = .error e ∧
      exec tools (o.withSecondReading false) l v = .error e) ∨
    ∃ ds w, exec tools (o.withSecondReading true) l v = .ok (ds, w) ∧
      exec tools (o.withSecondReading false) l v = .ok ([], w) := by
  induction l generalizing v with
  | nil => exact .inr ⟨[], v, rfl, rfl⟩
  | cons s l ih =>
    rw [exec, exec]
    rcases perform_in_step ha s v with ⟨f, hon, hoff⟩ | ⟨ds, w, hon, hoff⟩
    · rw [hon, hoff]
      exact .inl ⟨(s, f), rfl, rfl⟩
    · rw [hon, hoff]
      rcases ih w with ⟨e, hon', hoff'⟩ | ⟨es, u, hon', hoff'⟩
      · simp only [hon', hoff']
        exact .inl ⟨e, rfl, rfl⟩
      · simp only [hon', hoff']
        exact .inr ⟨ds ++ es, u, rfl, rfl⟩

/-! ### What is remarked -/

/-- If only the last stage emits source, the remarks are about the value of the whole chain. -/
theorem remarks_of_last {l : List Stage} (hl : .emitSource ∉ l) {v w : StageValue M}
    {ds : List Diagnostic} (h : exec tools o (l ++ [.emitSource]) v = .ok (ds, w)) :
    remarks tools o .emitSource w = .ok ds := by
  rw [exec_append] at h
  obtain ⟨⟨es, u⟩, hes, h⟩ := Reply.bind_eq_ok.mp h
  obtain rfl : es = [] := exec_silent hl hes
  obtain ⟨⟨fs, x⟩, hfs, hx⟩ := Reply.map_eq_ok.mp h
  cases hx
  obtain ⟨y, gs, gs', -, hgs, hnil, rfl⟩ := exec_cons_eq_ok hfs
  cases hnil
  rwa [List.nil_append, List.append_nil]

variable (tools) in
/-- The artifact is source that a conversion has emitted, and it cannot be read once more. -/
def Unreadable (c : Conversion) (a : Artifact) (f : StageFailure) : Prop :=
  c.output = .source ∧ ∃ text, a = .source text ∧ Stages.parseSource tools text = .error f

/-- The remarks about a text are the warning that it cannot be read, or there are none. -/
theorem remarks_emitSource {text : String} {ds : List Diagnostic}
    (h : remarks tools (o.withSecondReading true) .emitSource (.text text : StageValue M)
      = .ok ds) :
    (∃ m, Stages.parseSource tools text = .ok m ∧ ds = []) ∨
      ∃ f, Stages.parseSource tools text = .error f ∧ ds = [reparseWarning f] := by
  have hread : (verifySource tools text).map Diagnostics.records = .ok ds := h
  obtain ⟨es, hes, rfl⟩ := Reply.map_eq_ok.mp hread
  unfold verifySource at hes
  split at hes
  · next m hm =>
    cases hes
    exact .inl ⟨m, hm, rfl⟩
  · next f hf =>
    cases hes
    exact .inr ⟨f, hf, rfl⟩
  · cases hes

/-- **A run remarks that its artifact cannot be read once more, and nothing else.** -/
theorem remarks_of_run {c : Conversion} {v w : StageValue M} {ds : List Diagnostic} {a : Artifact}
    (hx : exec tools (o.withSecondReading true) (c.chain o.validateBinary) v = .ok (ds, w))
    (ha : w.toArtifact? c.outputKind = some a) :
    (∀ f, Unreadable tools c a f → ds = [reparseWarning f]) ∧
      ((∀ f, ¬ Unreadable tools c a f) → ds = []) := by
  by_cases hc : c.output = .source
  · have hkind : c.outputKind = .source := by rw [Conversion.outputKind, hc]; rfl
    rw [chain_of_source_output hkind] at hx
    have hr := remarks_of_last (emitSource_notMem_dropLast c _) hx
    rw [hkind] at ha
    cases w with
    | words ws => cases ha
    | module m => cases ha
    | text text =>
      cases ha
      rcases remarks_emitSource hr with ⟨m, hm, rfl⟩ | ⟨g, hg, rfl⟩
      · refine ⟨?_, fun _ => rfl⟩
        rintro f ⟨-, _, ⟨⟩, hf⟩
        rw [hm] at hf
        cases hf
      · refine ⟨?_, fun hn => absurd ⟨hc, text, rfl, hg⟩ (hn g)⟩
        rintro f ⟨-, _, ⟨⟩, hf⟩
        rw [hg] at hf
        cases hf
        rfl
  · have hsilent : .emitSource ∉ c.chain o.validateBinary := by
      revert hc
      cases c <;> cases o.validateBinary <;> decide
    exact ⟨fun f hf => absurd hf.1 hc, fun _ => exec_silent hsilent hx⟩

/-! ### Whole runs -/

/-- **Reading emitted source once more only adds a warning**, for all options and payloads and tools
that answer.  With it and without it a run fails in the same way, or succeeds with the same artifact,
stages and state; without it nothing is remarked, and with it one warning if the text that is
returned cannot be read. -/
theorem second_reading_only_warns (tools : Toolchain M) (ha : tools.Answers)
    (o : PipelineOptions) (c : Conversion) (p : Payload) :
    (∃ f, run tools (o.withSecondReading true) c p = .error f ∧
      run tools (o.withSecondReading false) c p = .error f) ∨
    ∃ x y, run tools (o.withSecondReading true) c p = .ok x ∧
      run tools (o.withSecondReading false) c p = .ok y ∧
      x.artifact = y.artifact ∧ x.report.stages = y.report.stages ∧
      x.report.state = y.report.state ∧ y.report.diagnostics.records = [] ∧
      (∀ f, Unreadable tools c x.artifact f →
        x.report.diagnostics.records = y.report.diagnostics.records ++
          [⟨.warning, "generated WGSL does not re-parse: " ++ f.error.bare, none⟩]) ∧
      ((∀ f, ¬ Unreadable tools c x.artifact f) →
        x.report.diagnostics = y.report.diagnostics) := by
  rw [run_eq, run_eq]
  cases hd : (Stages.decodeInput c p : Except Error (StageValue M)) with
  | error e => exact .inl ⟨_, rfl, rfl⟩
  | ok v =>
    rcases exec_in_step (o := o) ha (c.chain o.validateBinary) v with
      ⟨⟨s, f⟩, hon, hoff⟩ | ⟨ds, w, hon, hoff⟩
    · refine .inl ⟨.ofStage c s f, ?_, ?_⟩
      · exact congrArg (finish _ c) hon
      · exact congrArg (finish _ c) hoff
    · obtain ⟨a, hart, -, hfin⟩ := finish_of_exec_ok hd hon
      obtain ⟨b, hart', -, hfin'⟩ := finish_of_exec_ok hd hoff
      obtain rfl : a = b := Option.some_inj.mp (hart.symm.trans hart')
      obtain ⟨hwarns, hsilent⟩ := remarks_of_run hon hart
      refine .inr ⟨_, _, (congrArg (finish _ c) hon).trans hfin,
        (congrArg (finish _ c) hoff).trans hfin', rfl, rfl, rfl, rfl, ?_, ?_⟩
      · exact fun f hf => hwarns f hf
      · exact fun hn => congrArg Diagnostics.mk (hsilent hn)

end Pipeline

/-! ### Tools that answer -/

/-- An error in place of an abort. -/
def Reply.contained {ε α : Type} (f : String → ε) : Reply ε α → Reply ε α
  | .ok a => .ok a
  | .error e => .error e
  | .abort t => .error (f t)

theorem Reply.contained_ne_abort {ε α : Type} (f : String → ε) (r : Reply ε α) (t : String) :
    r.contained f ≠ .abort t := by
  cases r <;> exact fun h => by cases h

/-- The tools with every abort reported as an error. -/
def Toolchain.contained {M : Type} (tools : Toolchain M) : Toolchain M where
  assemble o s := (tools.assemble o s).contained fun _ => none
  disassemble o ws := (tools.disassemble o ws).contained fun _ => none
  validate env ws := (tools.validate env ws).contained fun _ => none
  parseSource s := (tools.parseSource s).contained fun t => ⟨t, []⟩
  parseBinary o ws := (tools.parseBinary o ws).contained fun t => [t]
  check m := (tools.check m).contained fun t => ⟨[t], []⟩
  emitSource o m := (tools.emitSource o m).contained id
  emitBinary o m := (tools.emitBinary o m).contained id

theorem Toolchain.contained_answers {M : Type} (tools : Toolchain M) : tools.contained.Answers where
  assemble _ _ := Reply.contained_ne_abort _ _
  disassemble _ _ := Reply.contained_ne_abort _ _
  validate _ _ := Reply.contained_ne_abort _ _
  parseSource _ := Reply.contained_ne_abort _ _
  parseBinary _ _ := Reply.contained_ne_abort _ _
  check _ := Reply.contained_ne_abort _ _
  emitSource _ _ := Reply.contained_ne_abort _ _
  emitBinary _ _ := Reply.contained_ne_abort _ _

namespace Pipeline

/-- A module with the least number of 64 bits.  Its source writes it as the negation of a number that
is too large. -/
def leastNumberWords : List Word :=
  [Words.magic, 0x00010500, 0x00070000, 3, 0, 131089, 11, 196613, 1, 109, 262165, 2, 64, 1, 327723,
    2, 1, 0, 2147483648]

/-- The number is emitted with and without the second reading, and with it there is a warning. -/
theorem second_reading_only_warns_standard :
    Toolchain.standard.contained.Answers ∧
    ∃ x y f, run Toolchain.standard.contained (PipelineOptions.withSecondReading {} true)
        .binaryToSource (.words leastNumberWords) = .ok x ∧
      run Toolchain.standard.contained (PipelineOptions.withSecondReading {} false)
        .binaryToSource (.words leastNumberWords) = .ok y ∧
      x.artifact = y.artifact ∧ y.report.diagnostics.records = [] ∧
      Unreadable Toolchain.standard.contained .binaryToSource x.artifact f ∧
      x.report.diagnostics.records = [reparseWarning f] := by
  have ha := Toolchain.standard.contained_answers
  refine ⟨ha, ?_⟩
  have hy : run Toolchain.standard.contained (PipelineOptions.withSecondReading {} false)
      .binaryToSource (.words leastNumberWords)
        = .ok (emitted {} .binaryToSource "const m: i64 = i64(-9223372036854775808);\n\n" []) := by
    decide +kernel
  obtain ⟨f, hf⟩ := Reply.exists_error
    (r := Stages.parseSource Toolchain.standard.contained
      "const m: i64 = i64(-9223372036854775808);\n\n") (by decide +kernel)
  rcases second_reading_only_warns Toolchain.standard.contained ha {} .binaryToSource
    (.words leastNumberWords) with ⟨g, -, hg⟩ | ⟨x, y, hx, hy', hart, -, -, hnone, hwarns, -⟩
  · rw [hy] at hg
    cases hg
  · obtain rfl := Reply.ok.inj (hy'.symm.trans hy)
    have hbad : Unreadable Toolchain.standard.contained .binaryToSource x.artifact f :=
      ⟨rfl, _, hart, hf⟩
    exact ⟨x, _, f, hx, hy', hart, hnone, hbad, hwarns f hbad⟩

end Pipeline

end ShaderConvert
