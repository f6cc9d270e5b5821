import Mathlib.Tactic
import ShaderConvert.Boundary
import ShaderConvert.Proofs.Pipeline.Presentation

/-
Owned calls agree with shared calls.

An owned call without options does what the shared call of the same conversion does on the same
input, where a binary comes as its bytes (`SharedInput.inBytes`):

* `call_outcome` — both come to the same artifact, or to the same text of a failure;
* `holdsResult_publish`, `holdsReport_recordFailure` — an artifact and a text are kept in the same
  bytes by the cache and by an owned buffer;
* `owned_eq_shared` — the two calls side by side.

Both calls render the failures of a run by themselves, each from the payload that it has made of the
input.  That this comes to the same text is what `Alike` is for.
-/
namespace ShaderConvert

theorem HostBuffer.read_null {α : Type} {n : ℕ} (h : n ≠ 0) :
    (HostBuffer.null n : HostBuffer α).read
      = .error (.invalidInput s!"null input pointer with length {n}") := by
  rw [HostBuffer.read, if_neg h]

namespace Boundary

open Pipeline

variable {M : Type} {tools : Toolchain M}

/-! ### The same input for both calls -/

/-- Shared calls take words where they convert a binary, else bytes. -/
def SharedInput.Fits (c : Conversion) : SharedInput → Prop
  | .words _ => c.input = .binary
  | .bytes _ => c.input ≠ .binary

/-- The input of a shared call, as an owned call takes it.  A null pointer keeps its length. -/
def SharedInput.inBytes : SharedInput → HostBuffer UInt8
  | .words (.data ws) => .data (Words.toBytes ws)
  | .words (.null n) => .null n
  | .bytes b => b

/-- Both inputs are refused for the same reason, or a conversion cannot tell them apart. -/
theorem SharedInput.payload_cases (tools : Toolchain M) (o : PipelineOptions) {c : Conversion}
    {input : SharedInput} (h : input.Fits c) :
    (∃ e, input.payload = .error e ∧ input.inBytes.read = .error e) ∨
      ∃ p bs, input.payload = .ok p ∧ input.inBytes.read = .ok bs ∧
        Alike tools o c p (.bytes bs) := by
  cases input with
  | words b =>
    cases b with
    | data ws => exact .inr ⟨.words ws, Words.toBytes ws, rfl, rfl, alike_toBytes h ws⟩
    | null n =>
      by_cases hn : n = 0
      · subst hn
        exact .inr ⟨.words [], [], rfl, rfl, alike_toBytes h []⟩
      · refine .inl ⟨_, ?_, HostBuffer.read_null hn⟩
        rw [SharedInput.payload, HostBuffer.read_null hn]
        rfl
  | bytes b =>
    have hp : SharedInput.payload (.bytes b) = b.read.map .bytes := rfl
    cases hb : b.read with
    | error e =>
      rw [hb] at hp
      exact .inl ⟨e, hp, hb⟩
    | ok bs =>
      rw [hb] at hp
      exact .inr ⟨.bytes bs, bs, hp, hb, alike_refl c _⟩

/-! ### What both calls come to -/

theorem ofCode_code (c : Conversion) : Conversion.ofCode c.code = .ok c := by
  cases c <;> rfl

/-- An owned call without options runs its conversion with the defaults. -/
theorem ownedResult_eq (c : Conversion) (buffer : HostBuffer UInt8) {options : HostBuffer UInt8}
    (h : options.read = .ok []) :
    ownedResult tools c.code buffer options =
      match buffer.read with
      | .error e => .error (c.display ++ ": " ++ e.display)
      | .ok bs =>
        match run tools {} c (.bytes bs) with
        | .ok x => .ok x.artifact
        | .error f => .error (f.renderWithInput (.bytes bs))
        | .abort _ => .error "owned conversion panicked" := by
  have hopt : ownedOptions c options = .ok {} := by
    simp only [ownedOptions, h]
  rw [ownedResult, ofCode_code]
  show (ownedOptions c options).bind _ = _
  rw [hopt]
  cases buffer.read <;> rfl

variable (tools) in
/-- **Both calls come to the same**: an artifact of the kind that the conversion promises, or the
text of a failure. -/
theorem call_outcome (cache : ResultCache) {c : Conversion} {input : SharedInput}
    {options : HostBuffer UInt8} (hfit : input.Fits c) (hopt : options.read = .ok []) :
    (∃ a, a.kind = c.outputKind ∧
      shared tools cache c input = (some (.ofArtifact a), cache.publish a) ∧
      ownedResult tools c.code input.inBytes options = .ok a) ∨
    ∃ text, shared tools cache c input = (none, cache.recordFailure text) ∧
      ownedResult tools c.code input.inBytes options = .error text := by
  rw [ownedResult_eq c _ hopt, shared]
  rcases SharedInput.payload_cases tools {} hfit with ⟨e, hp, hb⟩ | ⟨p, bs, hp, hb, halike⟩
  · rw [hp, hb]
    exact .inr ⟨_, rfl, rfl⟩
  · rw [hp, hb]
    simp only [publishInto, ← halike.run]
    cases hx : run tools {} c p with
    | ok x => exact .inl ⟨x.artifact, kind_of_run hx, rfl, rfl⟩
    | error f =>
      refine .inr ⟨f.renderWithInput p, rfl, ?_⟩
      simp only [halike.rendered f hx]
    -- default options do not ask to read emitted source again, which alone can abort
    | abort t => exact absurd hx (run_ne_abort rfl)

/-! ### The bytes of a result and of a report -/

/-- The buffer has the bytes of the slot: a text with a zero byte behind it that its size does not
count, or the bytes of the words. -/
structure HoldsResult (cache : ResultCache) (k : OutputKind) (b : OwnedBuffer) : Prop where
  kind : b.kind = some k
  size : b.payload.length = b.size
  text : k ≠ .binary → cache.slot k = some (.text (b.payload ++ [0])) ∧ b.terminator? = some 0
  words : k = .binary → ∃ ws, cache.slot k = some (.words ws) ∧ b.payload = Words.toBytes ws ∧
    b.size = 4 * cache.binarySize

/-- The buffer has the bytes of the report: no zero byte among them, and one behind. -/
structure HoldsReport (cache : ResultCache) (b : OwnedBuffer) : Prop where
  kind : b.kind = none
  size : b.payload.length = b.size
  stored : cache.report = some (b.payload ++ [0])
  text : ∃ t, cache.lastReport = some t ∧ b.payload = Utf8.encode t
  zero : 0 ∉ b.payload
  terminator : b.terminator? = some 0

theorem payload_ofText (k : Option OutputKind) (bs : List UInt8) :
    (OwnedBuffer.ofText k bs).payload = bs := by
  rw [OwnedBuffer.payload, OwnedBuffer.ofText, List.take_left']
  rfl

theorem terminator_ofText (k : Option OutputKind) (bs : List UInt8) :
    (OwnedBuffer.ofText k bs).terminator? = some 0 := by
  simp [OwnedBuffer.terminator?, OwnedBuffer.ofText]

/-- A text is kept in the same bytes by a slot and by a buffer. -/
theorem holdsResult_ofText {cache : ResultCache} {k : OutputKind} {t : String} (hk : k ≠ .binary)
    (h : cache.slot k = some (.text (Utf8.encode t ++ [0]))) :
    HoldsResult cache k (.ofText (some k) (Utf8.encode t)) where
  kind := rfl
  size := by
    rw [payload_ofText]
    rfl
  text _ := by
    rw [payload_ofText]
    exact ⟨h, terminator_ofText _ _⟩
  words hb := absurd hb hk

/-- **An artifact is kept in the same bytes** by the cache and by an owned buffer. -/
theorem holdsResult_publish (cache : ResultCache) (a : Artifact) :
    HoldsResult (cache.publish a) a.kind (.ofArtifact a) := by
  have hslot : (cache.publish a).slot a.kind = some (.ofArtifact a) := if_pos rfl
  cases a with
  | assembly t => exact holdsResult_ofText nofun hslot
  | source t => exact holdsResult_ofText nofun hslot
  | binary ws =>
    have hpayload : (OwnedBuffer.ofArtifact (.binary ws)).payload = Words.toBytes ws :=
      List.take_length
    refine ⟨rfl, by rw [hpayload]; rfl, fun hk => absurd rfl hk, fun _ => ⟨ws, hslot, hpayload, ?_⟩⟩
    show (Words.toBytes ws).length = 4 * ws.length
    exact Words.length_toBytes ws

/-- **A failure is kept in the same bytes** by the cache and by an owned buffer. -/
theorem holdsReport_recordFailure (cache : ResultCache) (text : String) :
    HoldsReport (cache.recordFailure text) (.ofReport text) := by
  have hpayload : (OwnedBuffer.ofReport text).payload = reportBytes text := payload_ofText _ _
  refine ⟨rfl, ?_, ?_, ⟨Utf8.dropNul text, ?_, ?_⟩, ?_, terminator_ofText _ _⟩
  · rw [hpayload]
    rfl
  · rw [hpayload]
    rfl
  · simp only [ResultCache.lastReport, ResultCache.recordFailure, Option.map_some,
      List.dropLast_concat, reportBytes, Utf8.filter_encode, Utf8.decodeLossy_encode]
  · rw [hpayload, reportBytes, Utf8.filter_encode]
  · rw [hpayload, reportBytes]
    simp

/-! ### The two calls side by side -/

/-- **Owned calls agree with shared calls**, on every conversion and input and whatever the tools
answer: one gives a buffer if and only if the other gives a slot, with the same bytes, and the
report of the one is the report that the other leaves behind. -/
theorem owned_eq_shared (tools : Toolchain M) (cache : ResultCache) (c : Conversion)
    (input : SharedInput) (options : HostBuffer UInt8) (hfit : input.Fits c)
    (hopt : options.read = .ok []) :
    ((∃ b, owned tools c.code input.inBytes options = .ok b) ↔
      (shared tools cache c input).1 ≠ none) ∧
    (∀ b, owned tools c.code input.inBytes options = .ok b →
      (shared tools cache c input).1 = (shared tools cache c input).2.slot c.outputKind ∧
      HoldsResult (shared tools cache c input).2 c.outputKind b) ∧
    (∀ b, owned tools c.code input.inBytes options = .error b →
      HoldsReport (shared tools cache c input).2 b) := by
  rw [owned]
  rcases call_outcome tools cache hfit hopt with
    ⟨a, hk, hshared, howned⟩ | ⟨text, hshared, howned⟩
  · rw [hshared, howned, ← hk]
    refine ⟨⟨fun _ => nofun, fun _ => ⟨_, rfl⟩⟩, ?_, nofun⟩
    rintro b ⟨rfl⟩
    exact ⟨(if_pos rfl).symm, holdsResult_publish cache a⟩
  · rw [hshared, howned]
    refine ⟨⟨nofun, fun h => absurd rfl h⟩, nofun, ?_⟩
    rintro b ⟨rfl⟩
    exact holdsReport_recordFailure cache text

/-- A text that is assembled, and a null pointer that is said to point to three words. -/
theorem owned_eq_shared_standard :
    (∃ b, owned Toolchain.standard 1 (.data (Utf8.encode "OpCapability Shader")) (.null 0) = .ok b ∧
      HoldsResult (shared Toolchain.standard .empty .assemblyToBinary
        (.bytes (.data (Utf8.encode "OpCapability Shader")))).2 .binary b) ∧
    (∃ b, owned Toolchain.standard 2 (.null 3) (.data []) = .error b ∧
      HoldsReport (shared Toolchain.standard .empty .binaryToSource (.words (.null 3))).2 b) := by
  obtain ⟨hiff, hresult, -⟩ := owned_eq_shared Toolchain.standard .empty .assemblyToBinary
    (.bytes (.data (Utf8.encode "OpCapability Shader"))) (.null 0) nofun rfl
  obtain ⟨-, -, hreport⟩ := owned_eq_shared Toolchain.standard .empty .binaryToSource
    (.words (.null 3)) (.data []) rfl rfl
  refine ⟨?_, _, rfl, hreport _ rfl⟩
  obtain ⟨b, hb⟩ := hiff.mpr (by decide +kernel)
  exact ⟨b, hb, (hresult b hb).2⟩

end Boundary

end ShaderConvert
