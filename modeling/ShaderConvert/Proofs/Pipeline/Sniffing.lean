import Mathlib.Tactic
import ShaderConvert.Proofs.Features.Allowlist
import ShaderConvert.Proofs.Pipeline.Composition
import ShaderConvert.Proofs.WordRoundTrip

/-
The format of a buffer and the decoding of the buffer as input.

A buffer is taken for a binary by a look at its first word; decoding turns all words around if the
first one asks for it, and the scan of a module looks for the magic number once more.

* `startsWithMagic_iff` — the first look finds the magic number if and only if the decoded words
  begin with it;
* `refused_iff` — a conversion stops at its input if and only if the input cannot be decoded;
* `run_binaryToSource_of_not_magic` — words without the magic number are never turned into source;
* `detect_agrees` — what is detected can be decoded, apart from a binary of a broken length, and
  what is not detected is refused.
-/
namespace ShaderConvert

/-! ### The magic number, before and after decoding -/

namespace Format

/-- **The first look agrees with decoding**, whatever the length of the buffer. -/
theorem startsWithMagic_iff (bs : List UInt8) :
    startsWithMagic bs = true
      ↔ (Words.normalize (Words.ofBytes bs)).head? = some Words.magic := by
  rw [Words.head_normalize_eq_magic_iff]
  unfold startsWithMagic
  split
  · next a b c d r =>
    rw [Words.ofBytes, List.head?_cons, Option.some_inj, Option.some_inj, Bool.or_eq_true,
      decide_eq_true_eq, decide_eq_true_eq, Words.swap_eq_magic_iff]
  · next h =>
    -- fewer than four bytes are no word
    have hnil : Words.ofBytes bs = [] := by
      unfold Words.ofBytes
      split
      · exact absurd rfl (h _ _ _ _ _)
      · rfl
    simp [hnil]

theorem detectText_ne_binary (cs : List Char) : detectText cs ≠ binary := by
  unfold detectText
  split
  · split_ifs <;> decide
  · decide

/-- What a format is detected by. -/
theorem detect_cases (bs : List UInt8) :
    (startsWithMagic bs = true ∧ detect bs = some binary) ∨
    (startsWithMagic bs = false ∧ (∃ s, Utf8.decode bs = .ok s) ∧
      ∃ f, f ≠ binary ∧ detect bs = some f) ∨
    (startsWithMagic bs = false ∧ (∃ e, Utf8.decode bs = .error e) ∧ detect bs = none) := by
  unfold detect
  cases hm : startsWithMagic bs with
  | true => exact .inl ⟨rfl, rfl⟩
  | false =>
    cases hd : Utf8.decode bs with
    | ok s => exact .inr (.inl ⟨rfl, ⟨s, rfl⟩, _, detectText_ne_binary s.toList, rfl⟩)
    | error e => exact .inr (.inr ⟨rfl, ⟨e, rfl⟩, rfl⟩)

/-- Nothing is detected in what is neither a binary nor a text. -/
theorem detect_eq_none {bs : List UInt8} (h : detect bs = none) :
    startsWithMagic bs = false ∧ ∃ e, Utf8.decode bs = .error e := by
  rcases detect_cases bs with ⟨-, hd⟩ | ⟨-, -, f, -, hd⟩ | ⟨hm, he, -⟩
  · rw [hd] at h
    cases h
  · rw [hd] at h
    cases h
  · exact ⟨hm, he⟩

theorem detect_eq_binary_iff (bs : List UInt8) :
    detect bs = some binary ↔ startsWithMagic bs = true := by
  rcases detect_cases bs with ⟨hm, hd⟩ | ⟨hm, -, f, hf, hd⟩ | ⟨hm, -, hd⟩
  · simp [hm, hd]
  · simp [hm, hd, hf]
  · simp [hm, hd]

end Format

theorem Conversion.exists_between {f t : Format} (h : t ≠ f) :
    ∃ c, between f t = .ok c ∧ c.input = f := by
  cases f <;> cases t <;> first | exact ⟨_, rfl, rfl⟩ | exact absurd rfl h

namespace Pipeline

variable {M : Type} {tools : Toolchain M} {o : PipelineOptions}

/-! ### Runs that stop at their input -/

/-- **A conversion stops at its input if and only if the input cannot be decoded.** -/
theorem refused_iff {c : Conversion} {p : Payload} :
    (∃ f, run tools o c p = .error f ∧ f.stage = .input) ↔
      ∃ e, (Stages.decodeInput c p : Except Error (StageValue M)) = .error e := by
  constructor
  · rintro ⟨f, hf, hstage⟩
    have hrun := run_runsTo tools o c p
    rw [hf] at hrun
    cases hrun with
    | refused h => exact ⟨_, h⟩
    | failed _ _ ht _ =>
      -- no stage of a chain is the decoding of the input
      have hs : _ = Stage.input := hstage
      subst hs
      cases ht
  · rintro ⟨e, he⟩
    rw [run_eq, he]
    exact ⟨_, rfl, rfl⟩

/-- Bytes of the format that was detected are refused only as a binary of a broken length. -/
theorem decodeInput_eq_error_iff_of_detect {c : Conversion} {bs : List UInt8}
    (h : Format.detect bs = some c.input) :
    (∃ e, (Stages.decodeInput c (.bytes bs) : Except Error (StageValue M)) = .error e) ↔
      c.input = .binary ∧ ¬ 4 ∣ bs.length := by
  by_cases hc : c.input = .binary
  · rw [decodeInput_bytes hc]
    cases hr : Words.readBytes bs with
    | ok ws =>
      have hdvd := (Words.readBytes_eq_ok_iff.mp hr).1
      exact ⟨nofun, fun hn => absurd hdvd hn.2⟩
    | error e =>
      refine ⟨fun _ => ⟨hc, fun hdvd => ?_⟩, fun _ => ⟨e, rfl⟩⟩
      rw [Words.readBytes_eq_ok_iff.mpr ⟨hdvd, rfl⟩] at hr
      cases hr
  · rcases Format.detect_cases bs with ⟨-, hd⟩ | ⟨-, ⟨s, hs⟩, -⟩ | ⟨-, -, hd⟩
    · rw [hd] at h
      exact absurd (Option.some.inj h).symm hc
    · rw [decodeInput_bytes_of_text hc, hs]
      exact ⟨nofun, fun hn => absurd hn.1 hc⟩
    · rw [hd] at h
      cases h

/-! ### Words without the magic number -/

variable (tools) in
/-- The reader refuses words that do not begin with the magic number. -/
theorem parseBinary_of_not_magic {ws : List Word} (h : ws.head? ≠ some Words.magic)
    (ro : ReaderOptions) : ∃ f, Stages.parseBinary tools ro ws = .error f := by
  cases hs : ModuleFeatures.scan ws with
  | ok m => exact absurd (ModuleFeatures.scan_eq_ok hs).1 h
  | error e =>
    have hcheck : ro.allowedFeatures.check ws = .error (.scan e) := by
      simp only [FeatureSet.check, hs]
    unfold Stages.parseBinary Stages.parseBinaryWith
    rw [hcheck]
    exact ⟨_, rfl⟩

variable (tools o) in
theorem exec_of_not_magic {ws : List Word} (h : ws.head? ≠ some Words.magic) :
    ∃ e, exec tools o (Conversion.chain o.validateBinary .binaryToSource) (.words ws)
      = .error e := by
  have hread : ∃ e, exec tools o [.parseBinary, .emitSource] (.words ws) = .error e := by
    obtain ⟨f, hf⟩ := parseBinary_of_not_magic tools h o.reader
    rw [exec_cons_of_ne (by decide), Stages.run, hf]
    exact ⟨_, rfl⟩
  cases hv : o.validateBinary with
  | false => exact hread
  | true =>
    rcases exec_validate tools o [.parseBinary, .emitSource] ws with hx | ⟨f, hx⟩
    · obtain ⟨e, he⟩ := hread
      exact ⟨e, hx.trans he⟩
    · exact ⟨_, hx⟩

variable (tools o) in
/-- **Bytes that do not begin with the magic number are never turned into source**: their length is
broken, or validation or the reader refuses them. -/
theorem run_binaryToSource_of_not_magic {bs : List UInt8}
    (h : Format.startsWithMagic bs = false) :
    ∃ f, run tools o .binaryToSource (.bytes bs) = .error f := by
  rw [run_eq, decodeInput_bytes rfl]
  cases hr : Words.readBytes bs with
  | error e => exact ⟨_, rfl⟩
  | ok ws =>
    have hhead : ws.head? ≠ some Words.magic := by
      rw [← (Words.readBytes_eq_ok_iff.mp hr).2, ne_eq, ← Format.startsWithMagic_iff, h]
      decide
    obtain ⟨e, he⟩ := exec_of_not_magic tools o hhead
    show ∃ f, finish o _ (exec tools o _ (.words ws)) = _
    rw [he]
    exact ⟨_, rfl⟩

/-- **Detection agrees with decoding**, for every buffer, all options and whatever the tools answer.
A buffer is taken for a binary if and only if it is decoded to words that begin with the magic
number.  A conversion from the detected format stops at the input only if that is a binary whose
length is broken.  If nothing is detected, no conversion from a text gets past its input, and none
from a binary to source succeeds. -/
theorem detect_agrees (tools : Toolchain M) (o : PipelineOptions) (bs : List UInt8) :
    (4 ∣ bs.length → (Format.detect bs = some .binary ↔
      ∃ ws, Words.readBytes bs = .ok ws ∧ ws.head? = some Words.magic)) ∧
    (∀ f t, Format.detect bs = some f → t ≠ f → ∃ c, Conversion.between f t = .ok c ∧
      ((∃ g, run tools o c (.bytes bs) = .error g ∧ g.stage = .input) ↔
        f = .binary ∧ ¬ 4 ∣ bs.length)) ∧
    (Format.detect bs = none →
      (∀ c : Conversion, c.input ≠ .binary → ∃ g, run tools o c (.bytes bs) = .error g ∧
        g.stage = .input ∧ g.error.kind = .invalidInput) ∧
      ∃ g, run tools o .binaryToSource (.bytes bs) = .error g) := by
  refine ⟨fun hdvd => ?_, fun f t hf ht => ?_, fun hnone => ?_⟩
  · rw [Format.detect_eq_binary_iff, Format.startsWithMagic_iff]
    constructor
    · exact fun h => ⟨_, Words.readBytes_eq_ok_iff.mpr ⟨hdvd, rfl⟩, h⟩
    · rintro ⟨ws, hws, hhead⟩
      rw [(Words.readBytes_eq_ok_iff.mp hws).2]
      exact hhead
  · obtain ⟨c, hc, rfl⟩ := Conversion.exists_between ht
    exact ⟨c, hc, refused_iff.trans (decodeInput_eq_error_iff_of_detect hf)⟩
  · obtain ⟨hm, e, he⟩ := Format.detect_eq_none hnone
    refine ⟨fun c hc => ?_, run_binaryToSource_of_not_magic tools o hm⟩
    rw [run_eq, decodeInput_bytes_of_text hc, he]
    exact ⟨_, rfl, rfl, rfl⟩

/-- A header in the other byte order, a magic number with a byte too much, an instruction as text,
and a byte that is no text. -/
theorem detect_agrees_standard :
    (∃ ws, Words.readBytes (Words.toBytesReversed [Words.magic, 0x00010000, 0, 1, 0]) = .ok ws ∧
      ws.head? = some Words.magic) ∧
    (∃ g, run Toolchain.standard {} .binaryToAssembly
        (.bytes [0x07, 0x23, 0x02, 0x03, 0]) = .error g ∧ g.stage = .input) ∧
    (¬ ∃ g, run Toolchain.standard {} .assemblyToBinary (.bytes (Utf8.encode "OpNop")) = .error g ∧
      g.stage = .input) ∧
    (∃ g, run Toolchain.standard {} .sourceToBinary (.bytes [0xFF]) = .error g ∧
      g.stage = .input ∧ g.error.kind = .invalidInput) ∧
    ∃ g, run Toolchain.standard {} .binaryToSource (.bytes [0xFF]) = .error g := by
  obtain ⟨hmagic, -, -⟩ := detect_agrees Toolchain.standard {}
    (Words.toBytesReversed [Words.magic, 0x00010000, 0, 1, 0])
  obtain ⟨-, hbroken, -⟩ := detect_agrees Toolchain.standard {} [0x07, 0x23, 0x02, 0x03, 0]
  obtain ⟨-, htext, -⟩ := detect_agrees Toolchain.standard {} (Utf8.encode "OpNop")
  obtain ⟨-, -, hnone⟩ := detect_agrees Toolchain.standard {} [0xFF]
  obtain ⟨hinput, hsource⟩ := hnone (by decide +kernel)
  refine ⟨(hmagic (by decide)).mp (by decide +kernel), ?_, ?_, hinput _ (by decide), hsource⟩
  · obtain ⟨c, hc, hiff⟩ := hbroken .binary .assembly (by decide +kernel) (by decide)
    cases hc
    exact hiff.mpr ⟨rfl, by decide⟩
  · obtain ⟨c, hc, hiff⟩ := htext .assembly .binary (by decide +kernel) (by decide)
    cases hc
    intro hstop
    exact absurd (hiff.mp hstop).1 (by decide)

end Pipeline

end ShaderConvert
