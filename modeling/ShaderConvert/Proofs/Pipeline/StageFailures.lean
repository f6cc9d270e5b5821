import Mathlib.Tactic
import ShaderConvert.Proofs.Pipeline.Execution

/-
What a failing stage hands back.

Errors reach a stage in several ways: as a bare error, as what the codec says about its input, as an
error about a source text, as a reason why a module is invalid, as a list of causes, or as an abort.
In each of them (`sound_of_guarded`)

* the error has the kind of its stage;
* the records are one error, in front, and notes.

Input that cannot be decoded has errors of its own (`decodeInput_eq_error`).  The errors that would
show a chain that does not fit together (`Misfit`) are told from all others by the first letters of
their texts.
-/
namespace ShaderConvert

/-- One error record, and behind it only notes. -/
def Diagnostics.IsFailure (ds : Diagnostics) : Prop :=
  ∃ d notes, ds.records = d :: notes ∧ d.severity = .error ∧ ∀ n ∈ notes, n.severity = .note

/-- The kind of error that a stage after the input reports; refused input is mostly invalid. -/
def Stage.errorKind : Stage → ErrorKind
  | input => .invalidInput
  | assemble | disassemble | validate => .codec
  | parseBinary | parseSource => .parse
  | emitSource | emitBinary => .emit

/-- A failure as a stage of kind `k` should report it. -/
def StageFailure.Sound (k : ErrorKind) (f : StageFailure) : Prop :=
  f.error.kind = k ∧ f.diagnostics.IsFailure

/-! ### The ways into diagnostics -/

namespace Diagnostics

theorem isFailure_ofMessage (t : String) : (ofMessage t).IsFailure :=
  ⟨_, [], rfl, rfl, by simp⟩

theorem isFailure_ofTool (e : Option ToolDiagnostic) : (ofTool e).IsFailure := by
  rcases e with _ | d
  · exact isFailure_ofMessage _
  · rw [ofTool]
    split_ifs
    · exact ⟨_, [], rfl, rfl, by simp⟩
    · exact isFailure_ofMessage _

theorem isFailure_ofSourceError (e : SourceError) (source : String) :
    (ofSourceError e source).IsFailure := by
  refine ⟨_, _, rfl, rfl, ?_⟩
  intro n hn
  obtain ⟨l, -, rfl⟩ := List.mem_map.mp hn
  rfl

theorem isFailure_ofInvalidity (e : Invalidity) (source : Option String) :
    (ofInvalidity e source).IsFailure := by
  refine ⟨_, _, rfl, rfl, ?_⟩
  intro n hn
  obtain ⟨l, -, rfl⟩ := List.mem_map.mp hn
  rfl

end Diagnostics

theorem StageFailure.sound_ofError (e : Error) : (ofError e).Sound e.kind :=
  ⟨rfl, Diagnostics.isFailure_ofMessage _⟩

/-! ### One stage after another -/

namespace Stages

variable {M : Type} {tools : Toolchain M}

theorem sound_toolFailure (context : String) (e : Option ToolDiagnostic) :
    (toolFailure context e).Sound .codec :=
  ⟨rfl, Diagnostics.isFailure_ofTool e⟩

theorem sound_of_disassemble {o : CodecOptions} {ws : List Word} {f : StageFailure}
    (h : disassemble tools o ws = .error f) : f.Sound .codec := by
  unfold disassemble at h
  split at h
  · cases h
    exact StageFailure.sound_ofError _
  · split at h
    · split at h <;> cases h
      exact StageFailure.sound_ofError _
    · cases h
      exact StageFailure.sound_ofError _
    · cases h
      exact sound_toolFailure _ _
    · cases h

theorem sound_of_assemble {o : CodecOptions} {t : String} {f : StageFailure}
    (h : assemble tools o t = .error f) : f.Sound .codec := by
  unfold assemble at h
  split at h
  · cases h
    exact StageFailure.sound_ofError _
  · obtain ⟨e, -, rfl⟩ := Reply.mapError_eq_error.mp h
    exact sound_toolFailure _ _

theorem sound_of_validate {o : CodecOptions} {ws : List Word} {f : StageFailure}
    (h : validate tools o ws = .error f) : f.Sound .codec := by
  obtain ⟨e, -, rfl⟩ := Reply.mapError_eq_error.mp h
  exact sound_toolFailure _ _

theorem sound_of_accept {source : Option String} {m : M} {f : StageFailure}
    (h : accept tools source m = .error f) : f.Sound .parse := by
  unfold accept at h
  split at h <;> cases h
  exact ⟨rfl, Diagnostics.isFailure_ofInvalidity _ _⟩

theorem sound_of_parseSource {t : String} {f : StageFailure}
    (h : parseSource tools t = .error f) : f.Sound .parse := by
  rcases Reply.bind_eq_error.mp h with h | ⟨m, -, h⟩
  · obtain ⟨e, -, rfl⟩ := Reply.mapError_eq_error.mp h
    exact ⟨rfl, Diagnostics.isFailure_ofSourceError _ _⟩
  · exact sound_of_accept h

theorem sound_of_parseBinary {o : ReaderOptions} {ws : List Word} {f : StageFailure}
    (h : parseBinary tools o ws = .error f) : f.Sound .parse := by
  unfold parseBinary parseBinaryWith at h
  split at h
  · cases h
    exact StageFailure.sound_ofError _
  · rcases Reply.bind_eq_error.mp h with h | ⟨m, -, h⟩
    · obtain ⟨causes, -, rfl⟩ := Reply.mapError_eq_error.mp h
      exact ⟨rfl, Diagnostics.isFailure_ofMessage _⟩
    · exact sound_of_accept h

theorem sound_of_emitSource {o : SourceOptions} {m : M} {f : StageFailure}
    (h : emitSource tools o m = .error f) : f.Sound .emit := by
  obtain ⟨t, -, rfl⟩ := Reply.mapError_eq_error.mp h
  exact StageFailure.sound_ofError _

theorem sound_of_emitBinary {o : BinaryOptions} {m : M} {f : StageFailure}
    (h : emitBinary tools o m = .error f) : f.Sound .emit := by
  obtain ⟨t, -, rfl⟩ := Reply.mapError_eq_error.mp h
  exact StageFailure.sound_ofError _

/-- A stage that gets a value of its shape fails with an error of its kind. -/
theorem sound_of_run {o : PipelineOptions} {s : Stage} {v : StageValue M} {f : StageFailure}
    (ht : s.takes = some v.shape) (h : run tools o s v = .error f) : f.Sound s.errorKind := by
  cases s <;> cases v <;> cases ht <;> rw [run, Reply.map_eq_error] at h
  · exact sound_of_assemble h
  · exact sound_of_disassemble h
  · exact sound_of_validate h
  · exact sound_of_parseBinary h
  · exact sound_of_parseSource h
  · exact sound_of_emitSource h
  · exact sound_of_emitBinary h

end Stages

namespace Pipeline

variable {M : Type} {tools : Toolchain M} {o : PipelineOptions}

theorem guarded_eq_error {α : Type} {s : Stage} {r : StageReply α} {f : StageFailure}
    (h : guarded s r = .error f) :
    r = .error f ∨ ∃ t, r = .abort t ∧
      f = .ofError (s.errorOf ("internal error in " ++ s.name ++ ": " ++ t)) := by
  rcases r with a | g | t
  · cases h
  · cases h
    exact .inl rfl
  · cases h
    exact .inr ⟨t, rfl, rfl⟩

theorem kind_errorOf (s : Stage) (t : String) : (s.errorOf t).kind = s.errorKind := by
  cases s <;> rfl

/-- **The stage decides the kind of error**, and its records are one error and notes, also where
the stage aborts. -/
theorem sound_of_guarded {s : Stage} {v : StageValue M} {f : StageFailure}
    (ht : s.takes = some v.shape) (h : guarded s (Stages.run tools o s v) = .error f) :
    f.Sound s.errorKind := by
  rcases guarded_eq_error h with h | ⟨t, -, rfl⟩
  · exact Stages.sound_of_run ht h
  · rw [← kind_errorOf s]
    exact StageFailure.sound_ofError _

/-! ### Input that cannot be decoded -/

/-- Bytes that should be words but are not a whole number of them. -/
def Misaligned (c : Conversion) (p : Payload) : Prop :=
  c.input = .binary ∧ ∃ bs, p = .bytes bs ∧ bs.length % 4 ≠ 0

/-- The first two letters, by which the texts of errors are told apart. -/
def opening (t : String) : List Char := t.toList.take 2

theorem opening_append {a : String} (b : String) (h : 2 ≤ a.toList.length) :
    opening (a ++ b) = opening a := by
  rw [opening, opening, String.toList_append, List.take_append_of_le_length h]

/-- Refused input has a codec error if it is misaligned, else it is invalid. -/
theorem decodeInput_eq_error {c : Conversion} {p : Payload} {e : Error}
    (h : (Stages.decodeInput c p : Except Error (StageValue M)) = .error e) :
    (Misaligned c p ∧ e.kind = .codec) ∨
      (¬ Misaligned c p ∧ ∃ t, e = .invalidInput t ∧ opening t ≠ ['s', 't']) := by
  unfold Stages.decodeInput at h
  split at h
  · cases h
  · next bs hc =>
    unfold Words.readBytes at h
    split at h <;> cases h
    next hlen => exact .inl ⟨⟨hc, bs, rfl, hlen⟩, rfl⟩
  · cases h
    refine .inr ⟨?_, _, rfl, by decide⟩
    rintro ⟨-, bs, hp, -⟩
    cases hp
  · cases h
  · next bs hc =>
    split at h <;> cases h
    refine .inr ⟨fun hm => hc hm.1, _, rfl, ?_⟩
    rw [opening_append _ (by decide)]
    decide
  · next ws hc =>
    cases h
    refine .inr ⟨fun hm => hc hm.1, _, rfl, ?_⟩
    cases hf : c.input with
    | binary => exact absurd hf hc
    | assembly => decide
    | source => decide

/-! ### Errors of a chain that does not fit together -/

/-- The errors that would show a stage with a value of another shape, a chain without a result of
its kind, or a result of another kind than was asked for. -/
inductive Misfit : Error → Prop where
  | shape (s : Stage) :
      Misfit (.invalidInput ("stage " ++ s.name ++ " received a value of the wrong shape"))
  | result (k : OutputKind) : Misfit (.emit ("chain ended without a " ++ k.name ++ " result"))
  | kind (c : Conversion) (k : OutputKind) :
      Misfit (.emit (c.display ++ " produced an unexpected " ++ k.name ++ " result"))

theorem opening_display (c : Conversion) : 2 ≤ c.display.toList.length ∧
    opening c.display ≠ ['f', 'a'] ∧ opening c.display ≠ ['i', 'n'] := by
  cases c <;> decide

theorem opening_of_misfit {e : Error} (h : Misfit e) :
    (∃ t, e = .invalidInput t ∧ opening t = ['s', 't']) ∨
      ∃ t, e = .emit t ∧ opening t ≠ ['f', 'a'] ∧ opening t ≠ ['i', 'n'] := by
  cases h with
  | shape s =>
    refine .inl ⟨_, rfl, ?_⟩
    rw [String.append_assoc, opening_append _ (by decide)]
    rfl
  | result k =>
    refine .inr ⟨_, rfl, ?_⟩
    rw [String.append_assoc, opening_append _ (by decide)]
    decide
  | kind c k =>
    obtain ⟨hlen, hopen⟩ := opening_display c
    refine .inr ⟨_, rfl, ?_⟩
    rw [String.append_assoc, String.append_assoc, opening_append _ hlen]
    exact hopen

theorem opening_errorOf {s : Stage} {t u : String} (h : s.errorOf t = .emit u) : u = t := by
  cases s <;> cases h <;> rfl

/-- The text of an emit error of a stage. -/
theorem opening_of_guarded {s : Stage} {v : StageValue M} {f : StageFailure} {t : String}
    (ht : s.takes = some v.shape) (h : guarded s (Stages.run tools o s v) = .error f)
    (he : f.error = .emit t) : opening t = ['f', 'a'] ∨ opening t = ['i', 'n'] := by
  rcases guarded_eq_error h with h | ⟨u, -, rfl⟩
  · left
    have hk := (Stages.sound_of_run ht h).1
    rw [he] at hk
    -- Only the two writers report emit errors, and both begin with the same words.
    cases s <;> cases hk <;> cases v <;> cases ht
    all_goals
      rw [Stages.run, Reply.map_eq_error] at h
      obtain ⟨u, -, rfl⟩ := Reply.mapError_eq_error.mp h
      cases he
      rw [opening_append _ (by decide)]
      rfl
  · right
    rw [opening_errorOf he, String.append_assoc, String.append_assoc, opening_append _ (by decide)]
    rfl

/-- **No stage reports a misfit**, if its value has the shape it takes. -/
theorem not_misfit_of_guarded {s : Stage} {v : StageValue M} {f : StageFailure}
    (ht : s.takes = some v.shape) (h : guarded s (Stages.run tools o s v) = .error f) :
    ¬ Misfit f.error := by
  intro hm
  rcases opening_of_misfit hm with ⟨t, he, -⟩ | ⟨t, he, hfa, hin⟩
  · have hk := (sound_of_guarded ht h).1
    rw [he] at hk
    cases s <;> cases hk
    cases ht
  · rcases opening_of_guarded ht h he with ho | ho
    · exact hfa ho
    · exact hin ho

theorem not_misfit_of_decodeInput {c : Conversion} {p : Payload} {e : Error}
    (h : (Stages.decodeInput c p : Except Error (StageValue M)) = .error e) : ¬ Misfit e := by
  intro hm
  rcases decodeInput_eq_error h with ⟨-, hk⟩ | ⟨-, t, rfl, ht⟩
  · cases hm <;> cases hk
  · rcases opening_of_misfit hm with ⟨u, hu, ho⟩ | ⟨u, hu, -⟩
    · cases hu
      exact ht ho
    · cases hu

end Pipeline

end ShaderConvert
