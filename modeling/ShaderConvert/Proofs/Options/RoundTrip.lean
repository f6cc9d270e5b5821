import Mathlib.Tactic
import ShaderConvert.Options.Json
import ShaderConvert.Proofs.Json.RoundTrip
import ShaderConvert.Proofs.Sorting

/-
Options survive their JSON form.

Each section of the options is a record whose text has all its members, so it is read back by the
laws of the reader (`reads_record`), and so are the options as a whole (`PipelineOptions.reads`).

The names of allowed features are a set, so what has its names in ascending order, each once, is read
back (`FeatureSet.IsSet.reads`), and the text is canonical.

The main statement is `json_round_trip`.
-/
namespace ShaderConvert

open Json Json.Reader

/-! ### Sets of names -/

namespace FeatureSet

/-- A set is everything, or has its names in ascending order, each once. -/
def IsSet : FeatureSet → Prop
  | everything => True
  | only cs es => cs.Pairwise (· < ·) ∧ es.Pairwise (· < ·)

/-- **Names are kept as their set.** -/
theorem ofNames_eq_only_iff {cs es a b : List String} :
    ofNames cs es = only a b ↔ IsSetOf a cs ∧ IsSetOf b es := by
  rw [ofNames, only.injEq, sortedSet_eq_iff, sortedSet_eq_iff]

theorem isSet_ofNames (cs es : List String) : (ofNames cs es).IsSet :=
  ⟨(isSetOf_sortedSet cs).ascending, (isSetOf_sortedSet es).ascending⟩

theorem fills_nameMembers (cs es : List String) :
    Fills nameMembers ([], [])
      [("capabilities", writeList (cs.map writeString)),
        ("extensions", writeList (es.map writeString))] (sortedSet cs, sortedSet es) :=
  .cons rfl ((reads_list fun s _ => reads_string s).bind rfl) <|
    .cons rfl ((reads_list fun s _ => reads_string s).bind rfl) <| .nil _

/-- **Names are read back as their set.** -/
theorem reads_only (cs es : List String) : Reads reader (only cs es).toJson (ofNames cs es) :=
  reads_tagged rfl ((reads_record (fills_nameMembers cs es) rfl (by decide) _ _).bind rfl)

/-- **A set is read back.** -/
theorem IsSet.reads {fs : FeatureSet} (h : fs.IsSet) : Reads reader fs.toJson fs := by
  cases fs with
  | everything => exact reads_bare rfl rfl
  | only cs es =>
    have honly := reads_only cs es
    rwa [ofNames_eq_only_iff.mpr ⟨isSetOf_self h.1, isSetOf_self h.2⟩] at honly

theorem ofNames_eq_iff {cs cs' es es' : List String} :
    ofNames cs es = ofNames cs' es' ↔ (∀ n, n ∈ cs ↔ n ∈ cs') ∧ ∀ n, n ∈ es ↔ n ∈ es' := by
  rw [ofNames, ofNames, only.injEq, sortedSet_eq_sortedSet_iff, sortedSet_eq_sortedSet_iff]

end FeatureSet

theorem TargetEnv.reads (e : TargetEnv) : Reads TargetEnv.reader (writeString e.name) e := by
  cases e <;> exact reads_bare rfl rfl

theorem BoundsCheck.reads (b : BoundsCheck) : Reads BoundsCheck.reader (writeString b.name) b := by
  cases b <;> exact reads_bare rfl rfl

theorem CodecOptions.reads (o : CodecOptions) : Reads CodecOptions.reader o.toJson o := by
  refine reads_record ?_ rfl (by decide) _ _
  exact .cons rfl ((TargetEnv.reads _).bind rfl) <| .cons rfl ((reads_boolean _).bind rfl) <|
    .cons rfl ((reads_boolean _).bind rfl) <| .cons rfl ((reads_boolean _).bind rfl) <|
    .cons rfl ((reads_boolean _).bind rfl) <| .nil _

theorem ReaderOptions.reads {o : ReaderOptions} (h : o.allowedFeatures.IsSet) :
    Reads ReaderOptions.reader o.toJson o := by
  refine reads_record ?_ rfl (by decide) _ _
  exact .cons rfl (h.reads.bind rfl) <| .cons rfl ((reads_boolean _).bind rfl) <|
    .cons rfl ((reads_boolean _).bind rfl) <| .nil _

theorem SourceOptions.reads (o : SourceOptions) : Reads SourceOptions.reader o.toJson o := by
  refine reads_record ?_ rfl (by decide) _ _
  exact .cons rfl ((reads_boolean _).bind rfl) <| .nil _

theorem reads_byte (b : UInt8) : Reads (natural 256 "u8") (toString b) b.toNat :=
  reads_natural b.toNat_lt (Nat.lt_trans b.toNat_lt (by decide)) _

/-- The two numbers of a version, whatever the other members hold. -/
theorem BinaryOptions.reads_version (o start : BinaryOptions) :
    Reads (do
      let (a, b) ← pair (natural 256 "u8")
      return { start with major := a.toUInt8, minor := b.toUInt8 })
      (writeList [toString o.major, toString o.minor])
      { start with major := o.major, minor := o.minor } := by
  refine (reads_pair (reads_byte o.major) (reads_byte o.minor)).bind ?_
  simp only [Nat.toUInt8_eq, UInt8.ofNat_toNat]

theorem BinaryOptions.reads (o : BinaryOptions) : Reads BinaryOptions.reader o.toJson o := by
  refine reads_record ?_ rfl (by decide) _ _
  exact .cons rfl (reads_version o _) <| .cons rfl ((BoundsCheck.reads _).bind rfl) <|
    .cons rfl ((reads_boolean _).bind rfl) <| .cons rfl ((reads_boolean _).bind rfl) <|
    .cons rfl ((reads_boolean _).bind rfl) <| .nil _

namespace PipelineOptions

/-- **Options are read back from their text.** -/
theorem reads {o : PipelineOptions} (h : o.reader.allowedFeatures.IsSet) :
    Reads jsonReader o.toJson o := by
  refine reads_record ?_ rfl (by decide) _ _
  exact .cons rfl ((CodecOptions.reads _).bind rfl) <|
    .cons rfl ((ReaderOptions.reads h).bind rfl) <|
    .cons rfl ((SourceOptions.reads _).bind rfl) <|
    .cons rfl ((BinaryOptions.reads _).bind rfl) <| .cons rfl ((reads_boolean _).bind rfl) <|
    .cons rfl ((reads_boolean _).bind rfl) <| .nil _

theorem decode_toJson {o : PipelineOptions} (h : o.reader.allowedFeatures.IsSet) :
    decode o.toJson = .ok o := by
  rw [decode, (reads h).run_eq]
  rfl

theorem ofJson_of_decode {o : PipelineOptions} {text : String} (h : decode text = .ok o) :
    ofJson text = o.check.map fun _ => o := by
  rw [ofJson, h]
  show (o.check >>= fun _ => pure o) = _
  cases o.check <;> rfl

theorem kind_of_check {o : PipelineOptions} {e : Error} (h : o.check = .error e) :
    e.kind = .config := by
  rw [check] at h
  split at h
  · cases h
    rfl
  · cases h

/-- Options that allow the features of the given names only. -/
def allowingOnly (o : PipelineOptions) (capabilities extensions : List String) : PipelineOptions :=
  { o with reader := { o.reader with allowedFeatures := .ofNames capabilities extensions } }

/-- Different options have different texts. -/
theorem toJson_inj {o o' : PipelineOptions} (h : o.reader.allowedFeatures.IsSet)
    (h' : o'.reader.allowedFeatures.IsSet) : o.toJson = o'.toJson ↔ o = o' := by
  refine ⟨fun htext => ?_, fun heq => heq ▸ rfl⟩
  have hdecode := decode_toJson h
  rw [htext, decode_toJson h'] at hdecode
  exact (Except.ok.inj hdecode).symm

theorem allowingOnly_inj (o : PipelineOptions) {cs cs' es es' : List String} :
    o.allowingOnly cs es = o.allowingOnly cs' es' ↔
      FeatureSet.ofNames cs es = FeatureSet.ofNames cs' es' := by
  refine ⟨fun h => ?_, fun h => by rw [allowingOnly, h, allowingOnly]⟩
  exact congrArg (·.reader.allowedFeatures) h

/-- **Options survive their JSON form.**  The text of options is read back as these options, and
accepted if their check accepts them; else the answer is the error of the check.  Names are kept as
their set.  The text is canonical: it tells sets apart, and names in another order or with repetitions
do not change it. -/
theorem json_round_trip :
    (∀ o : PipelineOptions, o.reader.allowedFeatures.IsSet →
      decode o.toJson = .ok o ∧
      (o.check = .ok () → ofJson o.toJson = .ok o) ∧
      (∀ e, o.check = .error e → e.kind = .config ∧ ofJson o.toJson = .error e)) ∧
    (∀ (o : PipelineOptions) (cs es : List String), ∃ a b, IsSetOf a cs ∧ IsSetOf b es ∧
      (o.allowingOnly cs es).reader.allowedFeatures = .only a b) ∧
    (∀ (o : PipelineOptions) (cs cs' es es' : List String),
      (o.allowingOnly cs es).toJson = (o.allowingOnly cs' es').toJson ↔
        (∀ n, n ∈ cs ↔ n ∈ cs') ∧ ∀ n, n ∈ es ↔ n ∈ es') := by
  refine ⟨?_, ?_, ?_⟩
  · intro o h
    have hdecode := decode_toJson h
    refine ⟨hdecode, fun hok => ?_, fun e he => ⟨kind_of_check he, ?_⟩⟩
    · rw [ofJson_of_decode hdecode, hok]
      rfl
    · rw [ofJson_of_decode hdecode, he]
      rfl
  · intro o cs es
    exact ⟨_, _, isSetOf_sortedSet cs, isSetOf_sortedSet es, rfl⟩
  · intro o cs cs' es es'
    rw [toJson_inj (FeatureSet.isSet_ofNames cs es) (FeatureSet.isSet_ofNames cs' es'),
      allowingOnly_inj, FeatureSet.ofNames_eq_iff]

/-- Names with control characters, a quote, a backslash and a character beyond sixteen bits. -/
def oddlyNamed : PipelineOptions where
  reader :=
    { allowedFeatures := .only ["\x01\x1f\n", "\"quoted\"", "back\\slash", "𝔖"] ["", "é"] }
  validateBinary := true

/-- They are read back; with a version that no stage can write, the error of the check is the
answer; the order of names and their repetition make no difference, their members do. -/
theorem json_round_trip_oddlyNamed :
    decode oddlyNamed.toJson = .ok oddlyNamed ∧ ofJson oddlyNamed.toJson = .ok oddlyNamed ∧
    ofJson { oddlyNamed with binary := { major := 2 } }.toJson
      = .error (.config "unsupported SPIR-V version 2.0") ∧
    (oddlyNamed.allowingOnly ["b", "a", "b"] []).toJson
      = (oddlyNamed.allowingOnly ["a", "b"] []).toJson ∧
    (oddlyNamed.allowingOnly ["b", "a", "b"] []).toJson
      ≠ (oddlyNamed.allowingOnly ["a"] []).toJson := by
  have hnames : ∀ n : String, n ∈ ["b", "a", "b"] ↔ n ∈ ["a", "b"] := by
    intro n
    simp only [List.mem_cons, List.not_mem_nil, or_false]
    tauto
  have hset : oddlyNamed.reader.allowedFeatures.IsSet := by
    constructor <;> decide +kernel
  obtain ⟨hround, -, hcanonical⟩ := json_round_trip
  obtain ⟨hdecode, hok, -⟩ := hround oddlyNamed hset
  obtain ⟨-, -, herror⟩ := hround { oddlyNamed with binary := { major := 2 } } hset
  have hcheck : oddlyNamed.check = .ok () := by decide +kernel
  have hfault : check { oddlyNamed with binary := { major := 2 } }
      = .error (.config "unsupported SPIR-V version 2.0") := by decide +kernel
  have hkept := (hcanonical oddlyNamed ["b", "a", "b"] ["a", "b"] [] []).mpr ⟨hnames, fun n => .rfl⟩
  refine ⟨hdecode, hok hcheck, (herror _ hfault).2, hkept, fun htext => ?_⟩
  obtain ⟨hmem, -⟩ := (hcanonical oddlyNamed ["b", "a", "b"] ["a"] [] []).mp htext
  exact absurd ((hmem "b").mp (by decide)) (by decide)

end PipelineOptions

end ShaderConvert
