import Mathlib.Tactic
import ShaderConvert.Proofs.Pipeline.Composition
import ShaderConvert.Proofs.Pipeline.OptionScope
import ShaderConvert.Proofs.Pipeline.StageFailures

/-
Validation is a filter.

A caller may ask for the binary of a conversion to be validated.  The stage for that is put between
two parts of the chain (`Conversion.Splits`), at a place that depends on the format of the input:

* `exec_validate_between` — the two parts run as they do without it, or the chain ends at validation,
  after the first part has succeeded;
* `run_screens` — so a run with validation is the run without it, but for one more stage in the list,
  or it is stopped (`Stopped`).

The main statement, `validation_filters`, reads off what that means for each outcome of the two runs.
-/
namespace ShaderConvert

/-- The options with validation switched on or off. -/
def PipelineOptions.withValidation (o : PipelineOptions) (validate : Bool) : PipelineOptions :=
  { o with validateBinary := validate }

/-- The stages of a conversion before and behind the place of validation.  Before it there is at most
the assembler, and the value that arrives there is a binary. -/
structure Conversion.Splits (c : Conversion) (l₁ l₂ : List Stage) : Prop where
  off : c.chain false = l₁ ++ l₂
  on : c.chain true = l₁ ++ .validate :: l₂
  fits : Stage.fits c.input.shape l₁ = some .words
  front : ∀ s ∈ l₁, s = .assemble
  back : .assemble ∉ l₂
  once : .validate ∉ l₁ ++ l₂

theorem Conversion.exists_splits {c : Conversion} (h : c.input ≠ .source) :
    ∃ l₁ l₂, c.Splits l₁ l₂ := by
  cases c with
  | binaryToAssembly => exact ⟨[], _, rfl, rfl, rfl, by simp, by decide, by decide⟩
  | assemblyToBinary => exact ⟨[.assemble], [], rfl, rfl, rfl, by simp, by decide, by decide⟩
  | binaryToSource => exact ⟨[], _, rfl, rfl, rfl, by simp, by decide, by decide⟩
  | assemblyToSource => exact ⟨[.assemble], _, rfl, rfl, rfl, by simp, by decide, by decide⟩
  | sourceToBinary => exact absurd rfl h
  | sourceToAssembly => exact absurd rfl h

namespace Pipeline

variable {M : Type} {tools : Toolchain M} {o : PipelineOptions}

/-! ### Chains -/

/-- Whether a chain validates is decided by its stages alone. -/
theorem exec_withValidation (validate : Bool) (l : List Stage) (v : StageValue M) :
    exec tools (o.withValidation validate) l v = exec tools o l v := by
  apply exec_congr
  intro s _
  cases s <;> trivial

theorem mem_of_exec_error {l : List Stage} {v : StageValue M} {s : Stage} {f : StageFailure}
    (h : exec tools o l v = .error (s, f)) : s ∈ l := by
  induction l generalizing v with
  | nil => cases h
  | cons s' l ih =>
    rw [exec] at h
    split at h
    · cases h
      exact List.mem_cons_self
    · cases h
    · exact List.mem_cons_of_mem _ (ih (Reply.map_eq_error.mp h))

/-- **Validation between two parts of a chain** changes nothing, or it refuses the words that the
first part came to. -/
theorem exec_validate_between {l₁ : List Stage} {v : StageValue M}
    (hfit : Stage.fits v.shape l₁ = some .words) (hsilent : .emitSource ∉ l₁) (l₂ : List Stage) :
    exec tools o (l₁ ++ .validate :: l₂) v = exec tools o (l₁ ++ l₂) v ∨
      ∃ ws f, exec tools o l₁ v = .ok ([], .words ws) ∧
        guarded .validate (Stages.run tools o .validate (.words ws)) = .error f ∧
        exec tools o (l₁ ++ .validate :: l₂) v = .error (.validate, f) := by
  rcases hx : exec tools o l₁ v with ⟨ds, w⟩ | e | t
  · obtain rfl : ds = [] := exec_silent hsilent hx
    have hshape := shape_of_exec hfit hx
    rcases w with ws | u | m
    · rw [exec_append_of_ok hx, exec_append_of_ok hx]
      cases hg : guarded .validate (Stages.run tools o .validate (.words ws)) with
      | error f =>
        refine .inr ⟨ws, f, rfl, hg, ?_⟩
        rw [exec_cons_of_ne (by decide), hg]
      | ok w =>
        obtain ⟨-, -, rfl⟩ := Reply.map_eq_ok.mp (guarded_eq_ok.mp hg)
        left
        rw [exec_cons_of_ne (by decide), hg]
    · cases hshape
    · cases hshape
  · exact .inl (by rw [exec_append_of_error hx, exec_append_of_error hx])
  · exact .inl (by rw [exec_append, exec_append, hx]; rfl)

/-! ### Runs -/

variable (tools o) in
/-- A run that is stopped by validation: the words that were handed to it are refused. -/
def Stopped (c : Conversion) (p : Payload) (r : Reply Failure Product) : Prop :=
  ∃ done ws f, Handed tools o c p done (.words ws) ∧
    guarded .validate (Stages.run tools o .validate (.words ws)) = .error f ∧
    f.error.kind = .codec ∧ r = .error (.ofStage c .validate f)

variable (tools o) in
/-- What validation makes of a run: the first reply is with it, the second without. -/
inductive Screens (c : Conversion) (p : Payload) :
    Reply Failure Product → Reply Failure Product → Prop where
  /-- There is nothing to validate. -/
  | same (hc : c.input = .source) (r : Reply Failure Product) : Screens c p r r
  /-- Both fail alike. -/
  | failed (f : Failure) : Screens c p (.error f) (.error f)
  | aborted (t : String) : Screens c p (.abort t) (.abort t)
  /-- Both succeed alike, and one of them has validated. -/
  | passed {a : Artifact} {ds : Diagnostics} (l₁ l₂ : List Stage) (once : .validate ∉ l₁ ++ l₂) :
      Screens c p (.ok ⟨a, ⟨c, l₁ ++ .validate :: l₂, .published, ds⟩⟩)
        (.ok ⟨a, ⟨c, l₁ ++ l₂, .published, ds⟩⟩)
  /-- One is stopped; the other has come beyond the assembler. -/
  | stopped {on off : Reply Failure Product} (h : Stopped tools o c p on)
      (hoff : ∀ g, off = .error g → g.stage ≠ .input ∧ g.stage ≠ .assemble) :
      Screens c p on off

/-- A run whose input is decoded goes on with its chain, whatever it says about validation. -/
theorem run_withValidation {c : Conversion} {p : Payload} {v : StageValue M}
    (hd : Stages.decodeInput c p = .ok v) (validate : Bool) :
    run tools (o.withValidation validate) c p
      = finish (o.withValidation validate) c (exec tools o (c.chain validate) v) := by
  rw [run_eq, hd]
  simp only [exec_withValidation]
  rfl

/-- A chain that succeeds ends in the same artifact, whatever the stages are called. -/
theorem finish_withValidation {c : Conversion} {p : Payload} {v w : StageValue M}
    {ds : List Diagnostic} {validate : Bool} (hd : Stages.decodeInput c p = .ok v)
    (hx : exec tools o (c.chain validate) v = .ok (ds, w)) :
    ∃ a, w.toArtifact? c.outputKind = some a ∧
      finish (o.withValidation validate) c (.ok (ds, w))
        = .ok ⟨a, ⟨c, .input :: c.chain validate, .published, ⟨ds⟩⟩⟩ := by
  have hx' : exec tools (o.withValidation validate)
      (c.chain (o.withValidation validate).validateBinary) v = .ok (ds, w) := by
    rw [exec_withValidation]
    exact hx
  obtain ⟨a, ha, -, hfin⟩ := finish_of_exec_ok hd hx'
  exact ⟨a, ha, hfin⟩

/-- A chain that has come to a binary has come beyond the assembler. -/
theorem stage_of_finish {c : Conversion} {p : Payload} {l₁ l₂ : List Stage} {v w : StageValue M}
    (hs : c.Splits l₁ l₂) (hd : Stages.decodeInput c p = .ok v)
    (hx : exec tools o l₁ v = .ok ([], w)) {g : Failure}
    (hg : finish (o.withValidation false) c (exec tools o (c.chain false) v) = .error g) :
    g.stage ≠ .input ∧ g.stage ≠ .assemble := by
  rcases hy : exec tools o (c.chain false) v with ⟨ds, u⟩ | ⟨s, f⟩ | t
  · obtain ⟨a, -, hfin⟩ := finish_withValidation hd hy
    rw [hy, hfin] at hg
    cases hg
  · rw [hy] at hg
    cases hg
    rw [hs.off, exec_append_of_ok hx] at hy
    have hmem := mem_of_exec_error hy
    refine ⟨?_, fun he => hs.back (he ▸ hmem)⟩
    rintro rfl
    have hchain : Stage.input ∈ c.chain false := hs.off ▸ List.mem_append_right l₁ hmem
    revert hchain
    cases c <;> decide
  · rw [hy] at hg
    cases hg

/-- Source as input is never validated. -/
theorem run_withValidation_of_source {c : Conversion} (hc : c.input = .source) (p : Payload) :
    run tools (o.withValidation true) c p = run tools (o.withValidation false) c p := by
  obtain ⟨hchain, hstages⟩ :=
    indifferent_of_conversion (indifferent_of_source hc (o.withValidation false) o.reader true)
  exact run_congr hchain hstages p

variable (tools o) in
/-- **A run with validation is the run without it, or it is stopped.** -/
theorem run_screens (c : Conversion) (p : Payload) :
    Screens tools o c p (run tools (o.withValidation true) c p)
      (run tools (o.withValidation false) c p) := by
  by_cases hc : c.input = .source
  · rw [run_withValidation_of_source hc]
    exact .same hc _
  obtain ⟨l₁, l₂, hs⟩ := Conversion.exists_splits hc
  cases hd : (Stages.decodeInput c p : Except Error (StageValue M)) with
  | error e =>
    rw [run_eq, run_eq, hd]
    exact .failed _
  | ok v =>
    have hfit : Stage.fits v.shape l₁ = some .words := by
      rw [shape_of_decodeInput hd]
      exact hs.fits
    have hsilent : .emitSource ∉ l₁ := fun hm => by cases hs.front _ hm
    rw [run_withValidation hd, run_withValidation hd]
    rcases exec_validate_between hfit hsilent l₂ with hsame | ⟨ws, f, hx, hf, hstop⟩
    · rw [← hs.on, ← hs.off] at hsame
      rcases hy : exec tools o (c.chain false) v with ⟨ds, w⟩ | ⟨s, f⟩ | t
      · rw [hy] at hsame
        obtain ⟨a, ha, hon⟩ := finish_withValidation hd hsame
        obtain ⟨b, hb, hoff⟩ := finish_withValidation hd hy
        obtain rfl : a = b := Option.some_inj.mp (ha.symm.trans hb)
        rw [hsame, hon, hoff, hs.on, hs.off]
        exact .passed (.input :: l₁) l₂ (by simpa using hs.once)
      · rw [hsame, hy]
        exact .failed _
      · rw [hsame, hy]
        exact .aborted t
    · have hk := (sound_of_guarded (by rfl) hf).1
      rw [hs.on, hstop]
      exact .stopped ⟨_, ws, f, handed_of_exec_ok (.input hd) hx, hf, hk, rfl⟩
        fun g hg => stage_of_finish hs hd hx hg

/-! ### What follows for each outcome -/

section Outcomes

variable {c : Conversion} {p : Payload} {on off : Reply Failure Product}

theorem Stopped.ne_ok (h : Stopped tools o c p on) (x : Product) : on ≠ .ok x := by
  obtain ⟨done, ws, f, -, -, -, rfl⟩ := h
  exact fun hx => by cases hx

theorem Stopped.ne_abort (h : Stopped tools o c p on) (t : String) : on ≠ .abort t := by
  obtain ⟨done, ws, f, -, -, -, rfl⟩ := h
  exact fun ht => by cases ht

/-- What passes validation is not changed by it. -/
theorem Screens.passes {x : Product} (h : Screens tools o c p on off) (hx : on = .ok x) :
    ∃ y, off = .ok y ∧ x.artifact = y.artifact ∧ x.report.diagnostics = y.report.diagnostics ∧
      (c.input ≠ .source → ∃ l₁ l₂, x.report.stages = l₁ ++ .validate :: l₂ ∧
        y.report.stages = l₁ ++ l₂ ∧ .validate ∉ l₁ ++ l₂) := by
  cases h with
  | same hc => exact ⟨x, hx, rfl, rfl, fun h => absurd hc h⟩
  | failed f => cases hx
  | aborted t => cases hx
  | @passed a ds l₁ l₂ once =>
    cases hx
    exact ⟨_, rfl, rfl, rfl, fun _ => ⟨l₁, l₂, rfl, rfl, once⟩⟩
  | stopped hs hoff => exact absurd hx (hs.ne_ok x)

/-- What is right without validation is right with it or stopped. -/
theorem Screens.of_ok {y : Product} (h : Screens tools o c p on off) (hy : off = .ok y) :
    (∃ x, on = .ok x) ∨ Stopped tools o c p on := by
  cases h with
  | same hc => exact .inl ⟨y, hy⟩
  | failed f => cases hy
  | aborted t => cases hy
  | passed => exact .inl ⟨_, rfl⟩
  | stopped hs hoff => exact .inr hs

/-- What fails without validation fails with it, by itself if there is no binary yet. -/
theorem Screens.of_error {g : Failure} (h : Screens tools o c p on off) (hg : off = .error g) :
    (g.stage = .input ∨ g.stage = .assemble → on = .error g) ∧
      (on = .error g ∨ Stopped tools o c p on) := by
  cases h with
  | same hc => exact ⟨fun _ => hg, .inl hg⟩
  | failed f => exact ⟨fun _ => hg, .inl hg⟩
  | aborted t => cases hg
  | passed => cases hg
  | stopped hs hoff =>
    obtain ⟨hin, has⟩ := hoff g hg
    exact ⟨fun h => (h.elim hin has).elim, .inr hs⟩

theorem Screens.abort {t : String} (h : Screens tools o c p on off) :
    (on = .abort t → off = .abort t) ∧
      (off = .abort t → on = .abort t ∨ Stopped tools o c p on) := by
  cases h with
  | same hc => exact ⟨id, .inl⟩
  | failed f => exact ⟨id, .inl⟩
  | aborted u => exact ⟨id, .inl⟩
  | passed => exact ⟨fun h => (by cases h), fun h => (by cases h)⟩
  | stopped hs hoff => exact ⟨fun ht => absurd ht (hs.ne_abort t), fun _ => .inr hs⟩

end Outcomes

/-- **Validation is a filter**, for all options and payloads and whatever the tools answer.

Source as input is never validated.  A run that succeeds with validation succeeds without it, with
the same artifact and remarks and one stage less.  A run that succeeds without it succeeds with it or
is stopped.  A run that fails without it before there is a binary fails in the same way with it; a
run that fails later fails in the same way or is stopped.  Validation causes no abort and hides none
but by stopping the run. -/
theorem validation_filters (tools : Toolchain M) (o : PipelineOptions) (c : Conversion)
    (p : Payload) :
    (c.input = .source →
      run tools (o.withValidation true) c p = run tools (o.withValidation false) c p) ∧
    (∀ x, run tools (o.withValidation true) c p = .ok x →
      ∃ y, run tools (o.withValidation false) c p = .ok y ∧ x.artifact = y.artifact ∧
        x.report.diagnostics = y.report.diagnostics ∧
        (c.input ≠ .source → ∃ l₁ l₂, x.report.stages = l₁ ++ .validate :: l₂ ∧
          y.report.stages = l₁ ++ l₂ ∧ .validate ∉ l₁ ++ l₂)) ∧
    (∀ y, run tools (o.withValidation false) c p = .ok y →
      (∃ x, run tools (o.withValidation true) c p = .ok x) ∨
        Stopped tools o c p (run tools (o.withValidation true) c p)) ∧
    (∀ g, run tools (o.withValidation false) c p = .error g →
      (g.stage = .input ∨ g.stage = .assemble →
        run tools (o.withValidation true) c p = .error g) ∧
      (run tools (o.withValidation true) c p = .error g ∨
        Stopped tools o c p (run tools (o.withValidation true) c p))) ∧
    (∀ t, (run tools (o.withValidation true) c p = .abort t →
        run tools (o.withValidation false) c p = .abort t) ∧
      (run tools (o.withValidation false) c p = .abort t →
        run tools (o.withValidation true) c p = .abort t ∨
          Stopped tools o c p (run tools (o.withValidation true) c p))) := by
  have h := run_screens tools o c p
  exact ⟨fun hc => run_withValidation_of_source hc p, fun x hx => h.passes hx,
    fun y hy => h.of_ok hy, fun g hg => h.of_error hg, fun t => h.abort⟩

/-- A module that declares no more than it must. -/
def leastModule : String :=
  "OpCapability Shader OpCapability Linkage OpMemoryModel Logical GLSL450"

/-- A module that is valid, one that lacks its memory model, and no text at all. -/
theorem validation_filters_standard :
    (∃ x y, run Toolchain.standard (PipelineOptions.withValidation {} true) .assemblyToBinary
        (.text leastModule) = .ok x ∧
      run Toolchain.standard (PipelineOptions.withValidation {} false) .assemblyToBinary
        (.text leastModule) = .ok y ∧ x.artifact = y.artifact) ∧
    Stopped Toolchain.standard {} .assemblyToBinary (.text "OpCapability Shader")
      (run Toolchain.standard (PipelineOptions.withValidation {} true) .assemblyToBinary
        (.text "OpCapability Shader")) ∧
    (∃ g, run Toolchain.standard (PipelineOptions.withValidation {} false) .assemblyToBinary
        (.text "") = .error g ∧ g.stage = .assemble ∧
      run Toolchain.standard (PipelineOptions.withValidation {} true) .assemblyToBinary
        (.text "") = .error g) := by
  obtain ⟨-, hpasses, -⟩ :=
    validation_filters Toolchain.standard {} .assemblyToBinary (.text leastModule)
  obtain ⟨-, -, hok, -⟩ :=
    validation_filters Toolchain.standard {} .assemblyToBinary (.text "OpCapability Shader")
  obtain ⟨-, -, -, herror, -⟩ :=
    validation_filters Toolchain.standard {} .assemblyToBinary (.text "")
  refine ⟨?_, ?_, ?_⟩
  · obtain ⟨x, hx⟩ := Reply.exists_ok
      (r := run Toolchain.standard (PipelineOptions.withValidation {} true) .assemblyToBinary
        (.text leastModule)) (by decide +kernel)
    obtain ⟨y, hy, ha, -⟩ := hpasses x hx
    exact ⟨x, y, hx, hy, ha⟩
  · obtain ⟨y, hy⟩ := Reply.exists_ok
      (r := run Toolchain.standard (PipelineOptions.withValidation {} false) .assemblyToBinary
        (.text "OpCapability Shader")) (by decide +kernel)
    obtain ⟨f, hf⟩ := Reply.exists_error
      (r := run Toolchain.standard (PipelineOptions.withValidation {} true) .assemblyToBinary
        (.text "OpCapability Shader")) (by decide +kernel)
    rcases hok y hy with ⟨x, hx⟩ | hstop
    · rw [hf] at hx
      cases hx
    · exact hstop
  · have hg : run Toolchain.standard (PipelineOptions.withValidation {} false) .assemblyToBinary
        (.text "") = .error (.ofStage .assemblyToBinary .assemble
          (.ofError (.codec "empty assembly text"))) := by decide +kernel
    exact ⟨_, hg, rfl, (herror _ hg).1 (.inr rfl)⟩

end Pipeline

end ShaderConvert
