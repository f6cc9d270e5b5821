import Mathlib.Tactic
import ShaderConvert.Proofs.Pipeline.Execution
import ShaderConvert.Proofs.Utf8RoundTrip

/-
A cache shows its history.

An operation on a cache comes to an `Event`: something was published, a call failed, the cache was
cleared, or nothing happened.  What a cache holds after any run of operations is read off the list
of events alone:

* a slot holds what was last published with its kind since the last clearing (`lastPublished`);
* the report is the text of the last failure, if nothing happened after it (`lastFailure`).

`represents_after` says so about the bytes that are stored, by one step lemma
(`represents_apply`); `after_shows_history` says so about what a caller sees, where text comes out as
it went in, and a report without its characters U+0000.
-/
namespace ShaderConvert.ResultCache

open Pipeline

/-- What a caller can do with a cache: four calls that change it and four that look at it. -/
inductive Operation where
  | publish (a : Artifact)
  | recordFailure (text : String)
  | publishInto (o : PipelineOptions) (c : Conversion) (p : Payload)
  | clear
  | read (k : OutputKind)
  | snapshot (k : OutputKind)
  | binarySize
  | lastReport
deriving Repr, DecidableEq

/-- What an operation comes to. -/
inductive Event where
  | published (a : Artifact)
  | failed (text : String)
  | cleared
  | nothing
deriving Repr, DecidableEq

variable {M : Type} (tools : Toolchain M)

/-- The cache after an operation. -/
def apply (cache : ResultCache) : Operation → ResultCache
  | .publish a => cache.publish a
  | .recordFailure text => cache.recordFailure text
  | .publishInto o c p => (publishInto tools o cache c p).2
  | .clear => cache.clear
  | .read _ | .snapshot _ | .binarySize | .lastReport => cache

/-- The cache after a run of operations on a fresh one. -/
def after (ops : List Operation) : ResultCache := ops.foldl (apply tools) empty

/-- A conversion publishes its artifact or fails with the rendering of its failure; if it aborts,
nothing happens. -/
def Operation.event : Operation → Event
  | .publish a => .published a
  | .recordFailure text => .failed text
  | .publishInto o c p =>
    match run tools o c p with
    | .ok x => .published x.artifact
    | .error f => .failed (f.renderWithInput p)
    | .abort _ => .nothing
  | .clear => .cleared
  | .read _ | .snapshot _ | .binarySize | .lastReport => .nothing

/-- The events of a run of operations, the first one first. -/
def events (ops : List Operation) : List Event := ops.map (Operation.event tools)

/-! ### Reading a history -/

def Event.artifactOf? (k : OutputKind) : Event → Option Artifact
  | published a => if a.kind = k then some a else none
  | _ => none

/-- What was last published with kind `k` since the last clearing. -/
def lastPublished (k : OutputKind) (log : List Event) : Option Artifact :=
  (log.reverse.takeWhile (· ≠ .cleared)).findSome? (Event.artifactOf? k)

/-- The text of the last failure, if it was the last thing that happened. -/
def lastFailure (log : List Event) : Option String :=
  match log.reverse.find? (· ≠ .nothing) with
  | some (.failed text) => some text
  | _ => none

theorem lastPublished_append (k : OutputKind) (log : List Event) (e : Event) :
    lastPublished k (log ++ [e]) =
      match e with
      | .cleared => none
      | .published a => if a.kind = k then some a else lastPublished k log
      | _ => lastPublished k log := by
  rw [lastPublished, List.reverse_append, List.reverse_singleton, List.singleton_append]
  cases e with
  | cleared => simp
  | nothing => simp [List.findSome?_cons, Event.artifactOf?, lastPublished]
  | failed t => simp [List.findSome?_cons, Event.artifactOf?, lastPublished]
  | published a =>
    by_cases h : a.kind = k <;> simp [Event.artifactOf?, lastPublished, h]

theorem lastFailure_append (log : List Event) (e : Event) :
    lastFailure (log ++ [e]) =
      match e with
      | .failed text => some text
      | .nothing => lastFailure log
      | _ => none := by
  rw [lastFailure, List.reverse_append, List.reverse_singleton, List.singleton_append]
  cases e <;> simp [lastFailure]

theorem kind_of_lastPublished {k : OutputKind} {log : List Event} {a : Artifact}
    (h : lastPublished k log = some a) : a.kind = k := by
  obtain ⟨l, e, r, -, he, -⟩ := List.findSome?_eq_some_iff.mp h
  cases e with
  | published b =>
    rw [Event.artifactOf?] at he
    split_ifs at he with hb
    cases he
    exact hb
  | failed t => cases he
  | cleared => cases he
  | nothing => cases he

/-! ### What is stored -/

/-- The cache stores exactly what the history tells: text with a zero byte behind it and words in
the slots, and the report without zero bytes and with one behind it. -/
structure Represents (cache : ResultCache) (log : List Event) : Prop where
  slot : ∀ k, cache.slot k = (lastPublished k log).map SlotValue.ofArtifact
  report : cache.report = (lastFailure log).map fun text => reportBytes text ++ [0]

theorem represents_empty : Represents empty [] where
  slot _ := rfl
  report := rfl

theorem Represents.publish {cache : ResultCache} {log : List Event} (h : Represents cache log)
    (a : Artifact) : Represents (cache.publish a) (log ++ [.published a]) where
  slot k := by
    rw [lastPublished_append]
    by_cases hk : a.kind = k
    · simp [ResultCache.publish, hk]
    · simp [ResultCache.publish, hk, Ne.symm hk, h.slot k]
  report := by
    rw [lastFailure_append]
    rfl

theorem Represents.recordFailure {cache : ResultCache} {log : List Event}
    (h : Represents cache log) (text : String) :
    Represents (cache.recordFailure text) (log ++ [.failed text]) where
  slot k := by
    rw [lastPublished_append]
    exact h.slot k
  report := by
    rw [lastFailure_append]
    rfl

theorem represents_clear (cache : ResultCache) (log : List Event) :
    Represents cache.clear (log ++ [.cleared]) where
  slot k := by
    rw [lastPublished_append]
    rfl
  report := by
    rw [lastFailure_append]
    rfl

theorem Represents.nothing {cache : ResultCache} {log : List Event} (h : Represents cache log) :
    Represents cache (log ++ [.nothing]) where
  slot k := by
    rw [lastPublished_append]
    exact h.slot k
  report := by
    rw [lastFailure_append]
    exact h.report

variable {tools}

/-- A conversion changes the cache as its outcome says. -/
theorem publishInto_snd (o : PipelineOptions) (cache : ResultCache) (c : Conversion) (p : Payload) :
    (publishInto tools o cache c p).2 =
      match run tools o c p with
      | .ok x => cache.publish x.artifact
      | .error f => cache.recordFailure (f.renderWithInput p)
      | .abort _ => cache := by
  rw [publishInto]
  cases run tools o c p <;> rfl

/-- **One operation adds one event.** -/
theorem represents_apply {cache : ResultCache} {log : List Event} (h : Represents cache log)
    (op : Operation) : Represents (apply tools cache op) (log ++ [op.event tools]) := by
  cases op with
  | publish a => exact h.publish a
  | recordFailure text => exact h.recordFailure text
  | clear => exact represents_clear cache log
  | publishInto o c p =>
    rw [apply, publishInto_snd, Operation.event]
    cases run tools o c p with
    | ok x => exact h.publish x.artifact
    | error f => exact h.recordFailure _
    | abort t => exact h.nothing
  | read k => exact h.nothing
  | snapshot k => exact h.nothing
  | binarySize => exact h.nothing
  | lastReport => exact h.nothing

/-- **A run of operations is represented by its events.** -/
theorem represents_after (ops : List Operation) : Represents (after tools ops) (events tools ops) := by
  have hrun : ∀ (ops : List Operation) (cache : ResultCache) (log : List Event),
      Represents cache log →
        Represents (ops.foldl (apply tools) cache) (log ++ ops.map (Operation.event tools)) := by
    intro ops
    induction ops with
    | nil =>
      intro cache log h
      simpa using h
    | cons op ops ih =>
      intro cache log h
      have hstep := ih (apply tools cache op) (log ++ [op.event tools]) (represents_apply h op)
      simpa using hstep
  exact hrun ops empty [] represents_empty

/-! ### What is seen -/

/-- A slot gives back what was published. -/
theorem toArtifact_ofArtifact (a : Artifact) :
    (SlotValue.ofArtifact a).toArtifact a.kind = a := by
  cases a with
  | assembly t =>
    simp only [SlotValue.ofArtifact, SlotValue.toArtifact, Artifact.kind, List.dropLast_concat,
      Utf8.decodeLossy_encode]
  | source t =>
    simp only [SlotValue.ofArtifact, SlotValue.toArtifact, Artifact.kind, List.dropLast_concat,
      Utf8.decodeLossy_encode]
  | binary ws => rfl

/-- What the calls that look at the slot of kind `k` tell, if `last` is what was last published
there: the artifact, and a view of its size with a zero byte behind a text. -/
def Shows (cache : ResultCache) (k : OutputKind) (last : Option Artifact) : Prop :=
  cache.snapshot k = last ∧
    match last with
    | none => cache.read k = none
    | some (.assembly t) => k = .assembly ∧ ∃ v, cache.read k = some v ∧
        v.size = t.utf8ByteSize ∧ v = .text (Utf8.encode t ++ [0])
    | some (.source t) => k = .source ∧ ∃ v, cache.read k = some v ∧
        v.size = t.utf8ByteSize ∧ v = .text (Utf8.encode t ++ [0])
    | some (.binary ws) => k = .binary ∧ ∃ v, cache.read k = some v ∧
        v.size = ws.length ∧ v = .words ws

theorem size_text (t : String) :
    (SlotValue.text (Utf8.encode t ++ [0])).size = t.utf8ByteSize := by
  rw [SlotValue.size, List.length_append, List.length_singleton, Nat.add_sub_cancel,
    Utf8.length_encode]

theorem Represents.shows {cache : ResultCache} {log : List Event} (h : Represents cache log)
    (k : OutputKind) : Shows cache k (lastPublished k log) := by
  have hslot := h.slot k
  cases hl : lastPublished k log with
  | none =>
    rw [hl] at hslot
    exact ⟨by rw [snapshot, hslot]; rfl, hslot⟩
  | some a =>
    have hk := kind_of_lastPublished hl
    rw [hl] at hslot
    refine ⟨?_, ?_⟩
    · rw [snapshot, hslot, ← hk]
      exact congrArg some (toArtifact_ofArtifact a)
    · cases a with
      | assembly t => exact ⟨hk.symm, _, hslot, size_text t, rfl⟩
      | source t => exact ⟨hk.symm, _, hslot, size_text t, rfl⟩
      | binary ws => exact ⟨hk.symm, _, hslot, rfl, rfl⟩

theorem Represents.lastReport {cache : ResultCache} {log : List Event} (h : Represents cache log) :
    cache.lastReport = (lastFailure log).map Utf8.dropNul := by
  rw [ResultCache.lastReport, h.report]
  cases lastFailure log with
  | none => rfl
  | some text =>
    rw [Option.map_some, Option.map_some, List.dropLast_concat, reportBytes, Utf8.filter_encode,
      Utf8.decodeLossy_encode, Option.map_some]

theorem Represents.binarySize {cache : ResultCache} {log : List Event} (h : Represents cache log) :
    cache.binarySize =
      match lastPublished .binary log with
      | some (.binary ws) => ws.length
      | _ => 0 := by
  have hslot := h.slot .binary
  rw [ResultCache.binarySize, hslot]
  cases hl : lastPublished .binary log with
  | none => rfl
  | some a =>
    have hk := kind_of_lastPublished hl
    cases a with
    | assembly t => cases hk
    | source t => cases hk
    | binary ws => rfl

/-- One more conversion: it changes the slot of its kind if it succeeds, and no slot otherwise. -/
theorem Represents.publishInto {cache : ResultCache} {log : List Event} (h : Represents cache log)
    (o : PipelineOptions) (c : Conversion) (p : Payload) :
    let next := apply tools cache (.publishInto o c p)
    match run tools o c p with
    | .ok x =>
      x.artifact.kind = c.outputKind ∧ next.snapshot c.outputKind = some x.artifact ∧
      next.lastReport = none ∧ ∀ k, k = c.outputKind ∨ next.slot k = cache.slot k
    | .error f =>
      next.slot = cache.slot ∧ next.lastReport = some (Utf8.dropNul (f.renderWithInput p))
    | .abort _ => next = cache ∧ ¬ tools.Answers := by
  intro next
  have hnext : next = _ := publishInto_snd o cache c p
  cases hx : run tools o c p with
  | ok x =>
    simp only [hx] at hnext ⊢
    have hk := kind_of_run hx
    have hrep := h.publish x.artifact
    rw [hnext]
    refine ⟨hk, ?_, ?_, fun k => ?_⟩
    · rw [(hrep.shows c.outputKind).1, lastPublished_append]
      exact if_pos hk
    · rw [hrep.lastReport, lastFailure_append]
      rfl
    · rw [← hk]
      by_cases h' : k = x.artifact.kind
      · exact .inl h'
      · exact .inr (if_neg h')
  | error f =>
    simp only [hx] at hnext ⊢
    rw [hnext]
    refine ⟨rfl, ?_⟩
    rw [(h.recordFailure _).lastReport, lastFailure_append]
    rfl
  | abort t =>
    simp only [hx] at hnext ⊢
    exact ⟨hnext, not_answers_of_run_abort hx⟩

/-- **A cache shows its history**, whatever the tools answer: each slot what was last published
with its kind since the last clearing, and the report of the last call that did something, if that
failed.  One more conversion changes the slot of its kind only if it succeeds. -/
theorem after_shows_history (tools : Toolchain M) (ops : List Operation) :
    (∀ k, Shows (after tools ops) k (lastPublished k (events tools ops))) ∧
    (after tools ops).binarySize =
      (match lastPublished .binary (events tools ops) with
      | some (.binary ws) => ws.length
      | _ => 0) ∧
    (after tools ops).lastReport = (lastFailure (events tools ops)).map Utf8.dropNul ∧
    (∀ o c p,
      let next := apply tools (after tools ops) (.publishInto o c p)
      match run tools o c p with
      | .ok x =>
        x.artifact.kind = c.outputKind ∧ next.snapshot c.outputKind = some x.artifact ∧
        next.lastReport = none ∧ ∀ k, k = c.outputKind ∨ next.slot k = (after tools ops).slot k
      | .error f =>
        next.slot = (after tools ops).slot ∧
        next.lastReport = some (Utf8.dropNul (f.renderWithInput p))
      | .abort _ => next = after tools ops ∧ ¬ tools.Answers) := by
  have hrep : Represents (after tools ops) (events tools ops) := represents_after ops
  exact ⟨hrep.shows, hrep.binarySize, hrep.lastReport, hrep.publishInto⟩

end ShaderConvert.ResultCache
