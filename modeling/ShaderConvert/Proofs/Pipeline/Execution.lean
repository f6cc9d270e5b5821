import Mathlib.Tactic
import ShaderConvert.Pipeline

/-
Runs of the pipeline, step by step.

`Pipeline.runChain` carries a report along.  `exec` is the same chain without it: what was remarked
on the way and the last value, or the stage that failed and how.  Everything that is proved about
whole runs goes through it:

* `runChain_eq` — the report is a function of what `exec` gives;
* `exec_append` — chains compose;
* `fits_chain`, `shape_of_exec` — every chain takes the shape of its input to the shape of its
  output, one stage after another;
* `run_runsTo` — the four things a run can come to.  That a chain ends in a value of another kind is
  not among them.

A run aborts only where emitted source is read once more; if every call of the tools gives a value
or an error (`Toolchain.Answers`), no run does.
-/
namespace ShaderConvert

/-! ### Replies -/

namespace Reply

variable {ε δ α β : Type}

theorem exists_ok {r : Reply ε α} (h : (r matches .ok _) = true) : ∃ a, r = .ok a := by
  cases r with
  | ok a => exact ⟨a, rfl⟩
  | error e => cases h
  | abort t => cases h

theorem exists_error {r : Reply ε α} (h : (r matches .error _) = true) : ∃ e, r = .error e := by
  cases r with
  | ok a => cases h
  | error e => exact ⟨e, rfl⟩
  | abort t => cases h

theorem exists_abort {r : Reply ε α} (h : (r matches .abort _) = true) : ∃ t, r = .abort t := by
  cases r with
  | ok a => cases h
  | error e => cases h
  | abort t => exact ⟨t, rfl⟩

theorem map_eq_ok {f : α → β} {r : Reply ε α} {b : β} :
    r.map f = .ok b ↔ ∃ a, r = .ok a ∧ f a = b := by
  cases r <;> simp [map]

theorem map_eq_error {f : α → β} {r : Reply ε α} {e : ε} : r.map f = .error e ↔ r = .error e := by
  cases r <;> simp [map]

theorem map_eq_abort {f : α → β} {r : Reply ε α} {t : String} :
    r.map f = .abort t ↔ r = .abort t := by
  cases r <;> simp [map]

theorem mapError_eq_error {f : ε → δ} {r : Reply ε α} {d : δ} :
    r.mapError f = .error d ↔ ∃ e, r = .error e ∧ f e = d := by
  cases r <;> simp [mapError]

theorem mapError_eq_ok {f : ε → δ} {r : Reply ε α} {a : α} :
    r.mapError f = .ok a ↔ r = .ok a := by
  cases r <;> simp [mapError]

theorem bind_eq_error {r : Reply ε α} {f : α → Reply ε β} {e : ε} :
    r.bind f = .error e ↔ r = .error e ∨ ∃ a, r = .ok a ∧ f a = .error e := by
  cases r <;> simp [bind]

theorem bind_eq_ok {r : Reply ε α} {f : α → Reply ε β} {b : β} :
    r.bind f = .ok b ↔ ∃ a, r = .ok a ∧ f a = .ok b := by
  cases r <;> simp [bind]

end Reply

/-! ### Tools that always answer -/

/-- Every call gives a value or an error. -/
structure Toolchain.Answers {M : Type} (tools : Toolchain M) : Prop where
  assemble : ∀ o s t, tools.assemble o s ≠ .abort t
  disassemble : ∀ o ws t, tools.disassemble o ws ≠ .abort t
  validate : ∀ env ws t, tools.validate env ws ≠ .abort t
  parseSource : ∀ s t, tools.parseSource s ≠ .abort t
  parseBinary : ∀ settings ws t, tools.parseBinary settings ws ≠ .abort t
  check : ∀ m t, tools.check m ≠ .abort t
  emitSource : ∀ o m t, tools.emitSource o m ≠ .abort t
  emitBinary : ∀ o m t, tools.emitBinary o m ≠ .abort t

theorem Stages.parseSource_ne_abort {M : Type} {tools : Toolchain M} (ht : tools.Answers)
    (source t : String) : parseSource tools source ≠ .abort t := by
  intro h
  unfold parseSource at h
  cases hp : tools.parseSource source with
  | abort u => exact ht.parseSource source u hp
  | error e =>
    rw [hp] at h
    cases h
  | ok m =>
    rw [hp] at h
    have ha : accept tools (some source) m = .abort t := h
    unfold accept at ha
    split at ha
    · cases ha
    · cases ha
    · next u hu => exact ht.check m u hu

/-! ### The shape of a value -/

/-- What kind of value stands between two stages. -/
inductive StageShape where
  | words
  | text
  | module
deriving Repr, DecidableEq

def StageValue.shape {M : Type} : StageValue M → StageShape
  | words _ => .words
  | text _ => .text
  | module _ => .module

/-- The shape of the input or output in a format. -/
def Format.shape : Format → StageShape
  | binary => .words
  | assembly | source => .text

theorem Format.shape_of_ne_binary {f : Format} (h : f ≠ .binary) : f.shape = .text := by
  cases f with
  | binary => exact absurd rfl h
  | assembly => rfl
  | source => rfl

/-- The shape a stage works on.  The input stage works on a payload, not on a value. -/
def Stage.takes : Stage → Option StageShape
  | input => none
  | disassemble | validate | parseBinary => some .words
  | assemble | parseSource => some .text
  | emitSource | emitBinary => some .module

/-- The shape of what a stage gives; the input stage gives what the format wants. -/
def Stage.gives : Stage → StageShape
  | input => .text
  | assemble | validate | emitBinary => .words
  | disassemble | emitSource => .text
  | parseBinary | parseSource => .module

/-- The shape after a chain, if each of its stages gets what it takes. -/
def Stage.fits : StageShape → List Stage → Option StageShape
  | a, [] => some a
  | a, s :: r => if s.takes = some a then fits s.gives r else none

/-- **Every chain fits together**, with and without validation. -/
theorem Conversion.fits_chain (c : Conversion) (validate : Bool) :
    Stage.fits c.input.shape (c.chain validate) = some c.output.shape := by
  cases c <;> cases validate <;> rfl

theorem StageValue.toArtifact?_eq_some {M : Type} {v : StageValue M} {f : Format}
    (h : v.shape = f.shape) :
    ∃ a, v.toArtifact? f.outputKind = some a ∧ a.kind = f.outputKind := by
  cases v <;> cases f <;> cases h
  · exact ⟨_, rfl, rfl⟩
  · exact ⟨_, rfl, rfl⟩
  · exact ⟨_, rfl, rfl⟩

namespace Pipeline

variable {M : Type} {tools : Toolchain M} {o : PipelineOptions}

/-! ### One stage -/

theorem guarded_eq_ok {α : Type} {s : Stage} {r : StageReply α} {a : α} :
    guarded s r = .ok a ↔ r = .ok a := by
  cases r <;> simp [guarded]

/-- A stage that gets a value of its shape gives one of the shape it promises. -/
theorem shape_of_run {s : Stage} {v w : StageValue M} (h : Stages.run tools o s v = .ok w) :
    s.takes = some v.shape ∧ w.shape = s.gives := by
  cases s <;> cases v <;> simp only [Stages.run, Reply.map_eq_ok, reduceCtorEq] at h
  all_goals
    obtain ⟨a, -, rfl⟩ := h
    exact ⟨rfl, rfl⟩

variable (tools o)

/-- What is remarked about the value of a stage: emitted source is read once more, if asked. -/
def remarks (s : Stage) (w : StageValue M) : Reply StageFailure (List Diagnostic) :=
  match s, w with
  | .emitSource, .text t =>
    if o.verifySourceRoundtrip then (verifySource tools t).map Diagnostics.records else .ok []
  | _, _ => .ok []

/-- One stage of a chain: the remarks and the value. -/
def perform (s : Stage) (v : StageValue M) :
    Reply StageFailure (List Diagnostic × StageValue M) :=
  match guarded s (Stages.run tools o s v) with
  | .error f => .error f
  | .ok w => (remarks tools o s w).map fun ds => (ds, w)

/-- A chain without its report: all remarks and the last value, or the stage that failed. -/
def exec : List Stage → StageValue M → Reply (Stage × StageFailure) (List Diagnostic × StageValue M)
  | [], v => .ok ([], v)
  | s :: r, v =>
    match perform tools o s v with
    | .error f => .error (s, f)
    | .abort t => .abort t
    | .ok (ds, w) => (exec r w).map fun x => (ds ++ x.1, x.2)

variable {tools o}

theorem verifySource_ne_error {t : String} {f : StageFailure} :
    verifySource tools t ≠ .error f := by
  rw [verifySource]
  split <;> simp

theorem verifySource_eq_abort {t u : String} (h : verifySource tools t = .abort u) :
    Stages.parseSource tools t = .abort u := by
  rw [verifySource] at h
  split at h
  · cases h
  · cases h
  · next x hx =>
    cases h
    exact hx

/-- Nothing is remarked, or what is seen when emitted source is read once more. -/
theorem remarks_cases (s : Stage) (w : StageValue M) :
    remarks tools o s w = .ok [] ∨ o.verifySourceRoundtrip = true ∧
      ∃ t, remarks tools o s w = (verifySource tools t).map Diagnostics.records := by
  unfold remarks
  split
  · next t =>
    by_cases hv : o.verifySourceRoundtrip = true
    · rw [if_pos hv]
      exact .inr ⟨hv, t, rfl⟩
    · rw [if_neg hv]
      exact .inl rfl
  · exact .inl rfl

theorem remarks_ne_error {s : Stage} {w : StageValue M} {f : StageFailure} :
    remarks tools o s w ≠ .error f := by
  intro h
  rcases remarks_cases s w with hr | ⟨-, t, hr⟩
  · rw [hr] at h
    cases h
  · rw [hr, Reply.map_eq_error] at h
    exact verifySource_ne_error h

/-- Only reading emitted source once more can abort. -/
theorem remarks_eq_abort {s : Stage} {w : StageValue M} {t : String}
    (h : remarks tools o s w = .abort t) :
    o.verifySourceRoundtrip = true ∧ ∃ text, Stages.parseSource tools text = .abort t := by
  rcases remarks_cases s w with hr | ⟨hv, text, hr⟩
  · rw [hr] at h
    cases h
  · rw [hr, Reply.map_eq_abort] at h
    exact ⟨hv, text, verifySource_eq_abort h⟩

theorem remarks_severity {s : Stage} {w : StageValue M} {ds : List Diagnostic}
    (h : remarks tools o s w = .ok ds) : ∀ d ∈ ds, d.severity = .warning := by
  rcases remarks_cases s w with hr | ⟨-, t, hr⟩
  · rw [hr] at h
    cases h
    simp
  · rw [hr] at h
    obtain ⟨es, hes, rfl⟩ := Reply.map_eq_ok.mp h
    rw [verifySource] at hes
    split at hes <;> cases hes <;> simp

theorem perform_eq_error {s : Stage} {v : StageValue M} {f : StageFailure} :
    perform tools o s v = .error f ↔ guarded s (Stages.run tools o s v) = .error f := by
  rw [perform]
  split
  · next g hg => simp [hg]
  · next w hw => simp [hw, Reply.map_eq_error, remarks_ne_error]

theorem perform_eq_ok {s : Stage} {v w : StageValue M} {ds : List Diagnostic} :
    perform tools o s v = .ok (ds, w)
      ↔ Stages.run tools o s v = .ok w ∧ remarks tools o s w = .ok ds := by
  have hok := guarded_eq_ok (s := s) (r := Stages.run tools o s v) (a := w)
  rw [← hok, perform]
  split
  · next g hg => simp [hg]
  · next x hx =>
    rw [hx, Reply.map_eq_ok]
    constructor
    · rintro ⟨a, ha, hax⟩
      cases hax
      exact ⟨rfl, ha⟩
    · rintro ⟨hxw, ha⟩
      cases hxw
      exact ⟨ds, ha, rfl⟩

theorem perform_eq_abort {s : Stage} {v : StageValue M} {t : String}
    (h : perform tools o s v = .abort t) :
    o.verifySourceRoundtrip = true ∧ ∃ text, Stages.parseSource tools text = .abort t := by
  rw [perform] at h
  split at h
  · cases h
  · exact remarks_eq_abort (Reply.map_eq_abort.mp h)

/-! ### Chains -/

/-- **Chains compose.** -/
theorem exec_append (l₁ l₂ : List Stage) (v : StageValue M) :
    exec tools o (l₁ ++ l₂) v
      = (exec tools o l₁ v).bind fun x =>
          (exec tools o l₂ x.2).map fun y => (x.1 ++ y.1, y.2) := by
  induction l₁ generalizing v with
  | nil =>
    rw [List.nil_append, exec, Reply.bind]
    cases exec tools o l₂ v <;> rfl
  | cons s l₁ ih =>
    rw [List.cons_append, exec, exec]
    rcases perform tools o s v with ⟨ds, w⟩ | f | t
    · simp only [ih]
      cases exec tools o l₁ w with
      | ok x =>
        simp only [Reply.map, Reply.bind]
        cases exec tools o l₂ x.2 <;> simp
      | error e => rfl
      | abort t => rfl
    · rfl
    · rfl

/-- A chain succeeds by its first stage and then the rest, on the value of that stage. -/
theorem exec_cons_eq_ok {s : Stage} {l : List Stage} {v w : StageValue M} {ds : List Diagnostic}
    (h : exec tools o (s :: l) v = .ok (ds, w)) :
    ∃ x es es', Stages.run tools o s v = .ok x ∧ remarks tools o s x = .ok es ∧
      exec tools o l x = .ok (es', w) ∧ ds = es ++ es' := by
  rw [exec] at h
  split at h
  · cases h
  · cases h
  · next es x hx =>
    obtain ⟨⟨es', y⟩, hy, hyw⟩ := Reply.map_eq_ok.mp h
    cases hyw
    obtain ⟨hrun, hes⟩ := perform_eq_ok.mp hx
    exact ⟨x, es, es', hrun, hes, hy, rfl⟩

/-- The report after a chain in which `ds` was remarked. -/
def reportAfter (report : ConversionReport) (l : List Stage) (ds : List Diagnostic) :
    ConversionReport :=
  { report with
    stages := report.stages ++ l
    state := l.foldl (fun _ s => s.state) report.state
    diagnostics := ⟨report.diagnostics.records ++ ds⟩ }

theorem runChain_cons (report : ConversionReport) (s : Stage) (l : List Stage)
    (v : StageValue M) :
    runChain tools o report (s :: l) v =
      match perform tools o s v with
      | .error f => .error (.ofStage report.conversion s f)
      | .abort t => .abort t
      | .ok x => runChain tools o (reportAfter report [s] x.1) l x.2 := by
  rw [runChain, perform]
  cases guarded s (Stages.run tools o s v) with
  | error f => rfl
  | ok w =>
    simp only [remarks]
    split
    · next t =>
      by_cases hv : o.verifySourceRoundtrip = true
      · simp only [hv, ↓reduceIte]
        cases verifySource tools t <;> rfl
      · simp [hv, reportAfter, Reply.map]
    · simp [reportAfter, Reply.map]

/-- **The report adds nothing to the run**: it only notes the stages and the remarks. -/
theorem runChain_eq (report : ConversionReport) (l : List Stage) (v : StageValue M) :
    runChain tools o report l v =
      match exec tools o l v with
      | .ok x => .ok (reportAfter report l x.1, x.2)
      | .error (s, f) => .error (.ofStage report.conversion s f)
      | .abort t => .abort t := by
  induction l generalizing report v with
  | nil => simp [runChain, exec, reportAfter]
  | cons s l ih =>
    rw [runChain_cons, exec]
    cases perform tools o s v with
    | error f => rfl
    | abort t => rfl
    | ok x =>
      simp only [ih]
      cases exec tools o l x.2 with
      | error e => rfl
      | abort t => rfl
      | ok y => simp [Reply.map, reportAfter]

/-- **A value keeps to the shapes of its chain.** -/
theorem shape_of_exec {l : List Stage} {v w : StageValue M} {ds : List Diagnostic} {a : StageShape}
    (hfit : Stage.fits v.shape l = some a) (h : exec tools o l v = .ok (ds, w)) : w.shape = a := by
  induction l generalizing v ds with
  | nil =>
    simp only [exec, Reply.ok.injEq, Prod.mk.injEq] at h
    rw [← h.2]
    exact Option.some_inj.mp hfit
  | cons s l ih =>
    obtain ⟨x, es, es', hrun, -, hx, -⟩ := exec_cons_eq_ok h
    obtain ⟨htakes, hgives⟩ := shape_of_run hrun
    rw [Stage.fits, if_pos htakes, ← hgives] at hfit
    exact ih hfit hx

/-- All that is remarked about a chain that succeeds are warnings. -/
theorem exec_severity {l : List Stage} {v w : StageValue M} {ds : List Diagnostic}
    (h : exec tools o l v = .ok (ds, w)) : ∀ d ∈ ds, d.severity = .warning := by
  induction l generalizing v ds with
  | nil =>
    cases h
    simp
  | cons s l ih =>
    obtain ⟨x, es, es', -, hes, hx, rfl⟩ := exec_cons_eq_ok h
    intro d hd
    rcases List.mem_append.mp hd with hd | hd
    · exact remarks_severity hes d hd
    · exact ih hx d hd

/-- A chain aborts only where emitted source is read once more. -/
theorem exec_eq_abort {l : List Stage} {v : StageValue M} {t : String}
    (h : exec tools o l v = .abort t) :
    o.verifySourceRoundtrip = true ∧ ∃ text, Stages.parseSource tools text = .abort t := by
  induction l generalizing v with
  | nil => cases h
  | cons s l ih =>
    rw [exec] at h
    split at h
    · cases h
    · next u hu =>
      cases h
      exact perform_eq_abort hu
    · exact ih (Reply.map_eq_abort.mp h)

/-! ### Whole runs -/

variable (tools o)

/-- The stages `done`, the decoding of the input first, succeed one after another, and the next
stage is handed `v`. -/
inductive Handed (c : Conversion) (p : Payload) : List Stage → StageValue M → Prop where
  | input {v : StageValue M} (h : Stages.decodeInput c p = .ok v) : Handed c p [.input] v
  | step {done : List Stage} {s : Stage} {v w : StageValue M} (hd : Handed c p done v)
      (h : Stages.run tools o s v = .ok w) : Handed c p (done ++ [s]) w

/-- What a run makes of its chain. -/
def finish (c : Conversion) :
    Reply (Stage × StageFailure) (List Diagnostic × StageValue M) → Reply Failure Product
  | .error (s, f) => .error (.ofStage c s f)
  | .abort t => .abort t
  | .ok (ds, w) =>
    let stages := .input :: c.chain o.validateBinary
    match w.toArtifact? c.outputKind with
    | some a => .ok ⟨a, ⟨c, stages, .published, ⟨ds⟩⟩⟩
    | none =>
      .error (.ofStage c (stages.getLastD .input)
        (.ofError (.emit ("chain ended without a " ++ c.outputKind.name ++ " result"))))

variable {tools o}

theorem run_eq (c : Conversion) (p : Payload) :
    run tools o c p =
      match (Stages.decodeInput c p : Except Error (StageValue M)) with
      | .error e => .error (.ofStage c .input (.ofError e))
      | .ok v => finish o c (exec tools o (c.chain o.validateBinary) v) := by
  rw [run]
  cases (Stages.decodeInput c p : Except Error (StageValue M)) with
  | error e => rfl
  | ok v =>
    simp only [runChain_eq]
    rcases exec tools o (c.chain o.validateBinary) v with ⟨ds, w⟩ | ⟨s, f⟩ | t
    · cases hw : w.toArtifact? c.outputKind with
      | none => simp [finish, reportAfter, hw]
      | some a => simp [finish, reportAfter, hw]
    · rfl
    · rfl

/-- A run that succeeds has decoded its input and gone through its chain. -/
theorem exec_of_run_eq_ok {c : Conversion} {p : Payload} {x : Product}
    (h : run tools o c p = .ok x) :
    ∃ v ds w, Stages.decodeInput c p = .ok v ∧
      exec tools o (c.chain o.validateBinary) v = .ok (ds, w) := by
  rw [run_eq] at h
  cases hd : (Stages.decodeInput c p : Except Error (StageValue M)) with
  | error e =>
    rw [hd] at h
    cases h
  | ok v =>
    rw [hd] at h
    simp only at h
    rcases hx : exec tools o (c.chain o.validateBinary) v with ⟨ds, w⟩ | ⟨s, f⟩ | t
    · exact ⟨v, ds, w, rfl, hx⟩
    · rw [hx] at h
      cases h
    · rw [hx] at h
      cases h

theorem decodeInput_words {c : Conversion} (h : c.input = .binary) (ws : List Word) :
    (Stages.decodeInput c (.words ws) : Except Error (StageValue M))
      = .ok (.words (Words.normalize ws)) := by
  unfold Stages.decodeInput
  rw [h]

theorem decodeInput_bytes {c : Conversion} (h : c.input = .binary) (bs : List UInt8) :
    (Stages.decodeInput c (.bytes bs) : Except Error (StageValue M))
      = (Words.readBytes bs).map .words := by
  unfold Stages.decodeInput
  rw [h]

theorem decodeInput_text {c : Conversion} (h : c.input ≠ .binary) (t : String) :
    (Stages.decodeInput c (.text t) : Except Error (StageValue M)) = .ok (.text t) := by
  cases c <;> first | rfl | exact absurd rfl h

theorem decodeInput_bytes_of_text {c : Conversion} (h : c.input ≠ .binary) (bs : List UInt8) :
    (Stages.decodeInput c (.bytes bs) : Except Error (StageValue M)) =
      match Utf8.decode bs with
      | .ok s => .ok (.text s)
      | .error f => .error (.invalidInput ("input is not UTF-8: " ++ f.message)) := by
  unfold Stages.decodeInput
  cases hc : c.input with
  | binary => exact absurd hc h
  | assembly => rfl
  | source => rfl

/-- The decoded input has the shape of its format. -/
theorem shape_of_decodeInput {c : Conversion} {p : Payload} {v : StageValue M}
    (h : Stages.decodeInput c p = .ok v) : v.shape = c.input.shape := by
  unfold Stages.decodeInput at h
  split at h
  · next hc =>
    cases h
    rw [hc]
    rfl
  · next bs hc =>
    rw [hc]
    unfold Words.readBytes at h
    split at h <;> cases h
    rfl
  · cases h
  · next hc =>
    cases h
    exact (Format.shape_of_ne_binary hc).symm
  · next hc =>
    split at h <;> cases h
    exact (Format.shape_of_ne_binary hc).symm
  · cases h

/-- What the stage that ends a chain was handed: all stages before it succeeded. -/
theorem handed_of_exec_error {c : Conversion} {p : Payload} {done l : List Stage}
    {v : StageValue M} {s : Stage} {f : StageFailure} {a : StageShape}
    (hd : Handed tools o c p done v) (hfit : Stage.fits v.shape l = some a)
    (h : exec tools o l v = .error (s, f)) :
    ∃ l₁ l₂ u, l = l₁ ++ s :: l₂ ∧ Handed tools o c p (done ++ l₁) u ∧
      s.takes = some u.shape ∧ guarded s (Stages.run tools o s u) = .error f := by
  induction l generalizing done v with
  | nil => cases h
  | cons s' l ih =>
    rw [exec] at h
    split at h
    · next g hg =>
      cases h
      rw [Stage.fits] at hfit
      split_ifs at hfit with htakes
      exact ⟨[], l, v, rfl, by rwa [List.append_nil], htakes, perform_eq_error.mp hg⟩
    · cases h
    · next ds w hw =>
      obtain ⟨hrun, -⟩ := perform_eq_ok.mp hw
      obtain ⟨htakes, hgives⟩ := shape_of_run hrun
      rw [Stage.fits, if_pos htakes, ← hgives] at hfit
      obtain ⟨l₁, l₂, u, rfl, hu, hs, hf⟩ :=
        ih (Handed.step hd hrun) hfit (Reply.map_eq_error.mp h)
      rw [List.append_assoc] at hu
      exact ⟨s' :: l₁, l₂, u, rfl, hu, hs, hf⟩

theorem handed_of_exec_ok {c : Conversion} {p : Payload} {done l : List Stage}
    {v w : StageValue M} {ds : List Diagnostic} (hd : Handed tools o c p done v)
    (h : exec tools o l v = .ok (ds, w)) : Handed tools o c p (done ++ l) w := by
  induction l generalizing done v ds with
  | nil =>
    cases h
    rwa [List.append_nil]
  | cons s l ih =>
    obtain ⟨x, es, es', hrun, -, hx, -⟩ := exec_cons_eq_ok h
    have hstep := ih (Handed.step hd hrun) hx
    rwa [List.append_assoc] at hstep

/-- A chain that succeeds ends in an artifact of the kind of its conversion. -/
theorem finish_of_exec_ok {c : Conversion} {p : Payload} {v w : StageValue M}
    {ds : List Diagnostic} (hin : Stages.decodeInput c p = .ok v)
    (hx : exec tools o (c.chain o.validateBinary) v = .ok (ds, w)) :
    ∃ a, w.toArtifact? c.outputKind = some a ∧ a.kind = c.outputKind ∧
      finish o c (.ok (ds, w))
        = .ok ⟨a, ⟨c, .input :: c.chain o.validateBinary, .published, ⟨ds⟩⟩⟩ := by
  have hfit := c.fits_chain o.validateBinary
  rw [← shape_of_decodeInput hin] at hfit
  obtain ⟨a, ha, hk⟩ := StageValue.toArtifact?_eq_some (shape_of_exec hfit hx)
  refine ⟨a, ha, hk, ?_⟩
  simp only [finish, Conversion.outputKind, ha]

variable (tools o)

/-- What a run can come to. -/
inductive RunsTo (c : Conversion) (p : Payload) : Reply Failure Product → Prop where
  /-- The input cannot be decoded. -/
  | refused {e : Error} (h : (Stages.decodeInput c p : Except Error (StageValue M)) = .error e) :
      RunsTo c p (.error (.ofStage c .input (.ofError e)))
  /-- A stage fails on the value handed to it, which has the shape that the stage takes. -/
  | failed {done rest : List Stage} {v : StageValue M} {s : Stage} {f : StageFailure}
      (hl : .input :: c.chain o.validateBinary = done ++ s :: rest)
      (hd : Handed tools o c p done v) (ht : s.takes = some v.shape)
      (hf : guarded s (Stages.run tools o s v) = .error f) :
      RunsTo c p (.error (.ofStage c s f))
  /-- All stages succeed, and the last value is the artifact. -/
  | finished {w : StageValue M} {ds : List Diagnostic} {a : Artifact}
      (hd : Handed tools o c p (.input :: c.chain o.validateBinary) w)
      (ha : w.toArtifact? c.outputKind = some a) (hk : a.kind = c.outputKind)
      (hds : ∀ d ∈ ds, d.severity = .warning) :
      RunsTo c p
        (.ok ⟨a, ⟨c, .input :: c.chain o.validateBinary, .published, ⟨ds⟩⟩⟩)
  /-- Reading emitted source once more aborts. -/
  | aborted {t text : String} (hv : o.verifySourceRoundtrip = true)
      (h : Stages.parseSource tools text = .abort t) : RunsTo c p (.abort t)

/-- **Every run comes to one of four things.** -/
theorem run_runsTo (c : Conversion) (p : Payload) :
    RunsTo tools o c p (run tools o c p) := by
  rw [run_eq]
  cases hin : (Stages.decodeInput c p : Except Error (StageValue M)) with
  | error e => exact .refused hin
  | ok v =>
    simp only
    rcases hx : exec tools o (c.chain o.validateBinary) v with ⟨ds, w⟩ | ⟨s, f⟩ | t
    · obtain ⟨a, ha, hk, hfin⟩ := finish_of_exec_ok hin hx
      rw [hfin]
      exact .finished (handed_of_exec_ok (.input hin) hx) ha hk (exec_severity hx)
    · have hfit := c.fits_chain o.validateBinary
      rw [← shape_of_decodeInput hin] at hfit
      obtain ⟨l₁, l₂, u, hl, hu, ht, hf⟩ := handed_of_exec_error (.input hin) hfit hx
      exact .failed (congrArg (Stage.input :: ·) hl) hu ht hf
    · obtain ⟨hv, text, ht⟩ := exec_eq_abort hx
      exact .aborted hv ht

variable {tools o}

theorem kind_of_run {c : Conversion} {p : Payload} {x : Product} (h : run tools o c p = .ok x) :
    x.artifact.kind = c.outputKind := by
  have hrun := run_runsTo tools o c p
  rw [h] at hrun
  cases hrun with
  | finished _ _ hk _ => exact hk

/-- Nothing aborts that is not asked to read emitted source once more. -/
theorem run_ne_abort {c : Conversion} {p : Payload} {t : String}
    (hv : o.verifySourceRoundtrip = false) : run tools o c p ≠ .abort t := by
  intro h
  have hrun := run_runsTo tools o c p
  rw [h] at hrun
  cases hrun with
  | aborted hv' _ =>
    rw [hv] at hv'
    cases hv'

theorem not_answers_of_run_abort {c : Conversion} {p : Payload} {t : String}
    (h : run tools o c p = .abort t) : ¬ tools.Answers := by
  intro ha
  have hrun := run_runsTo tools o c p
  rw [h] at hrun
  cases hrun with
  | aborted _ h' => exact Stages.parseSource_ne_abort ha _ _ h'

end Pipeline

end ShaderConvert
