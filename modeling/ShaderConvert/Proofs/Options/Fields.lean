import Mathlib.Tactic
import ShaderConvert.Proofs.Json.Objects
import ShaderConvert.Proofs.Options.RoundTrip

/-
The fields that a text of options can give.

The options and each of their sections have a type of fields, with the name of each field, the values
that give it and what it replaces; the four together are a schema.  For each section

* `fits` says that its reader reads the members of its schema;
* `commutes` says that its fields replace different things.

A section is a field of the options whose value is again an object with some of the section's fields
(`OptionField`); and so is a set of names among the options of the reader (`GivenFeatures`).  A set is
given by a list of its names in any order, with any repetitions (`Json.Value.NamesAll`).
-/
namespace ShaderConvert

open Json Json.Reader

/-! ### Names -/

/-- A variant without contents is named by a string, or by the only member of an object. -/
def Json.Value.Names (v : Value) (n : String) : Prop :=
  v = .string (some n) ∨ v = .object [(some n, .null)]

theorem Json.Value.Names.takes {α : Type} {vs : List (Variant α)} {v : Value} {n : String} {a : α}
    (h : v.Names n) (hw : vs.find? (·.name = n) = some (.plain n a)) : Takes (variant vs) v a := by
  rcases h with rfl | rfl
  · exact takes_bare hw rfl
  · exact takes_tagged hw (takes_unit.bind rfl)

theorem TargetEnv.takes {e : TargetEnv} {v : Value} (h : v.Names e.name) :
    Takes TargetEnv.reader v e :=
  h.takes (by cases e <;> rfl)

theorem BoundsCheck.takes {b : BoundsCheck} {v : Value} (h : v.Names b.name) :
    Takes BoundsCheck.reader v b :=
  h.takes (by cases b <;> rfl)

/-- A list of names, each as a string. -/
def Json.Value.ofNames (names : List String) : Value := .list (names.map fun n => .string (some n))

theorem takes_ofNames (names : List String) : Takes (list string) (.ofNames names) names := by
  refine takes_list ?_
  rw [List.forall₂_map_left_iff, List.forall₂_same]
  exact fun n _ => takes_string n

/-- The value lists the names of a set, in any order and with any repetitions.  Every list of names is
that of a set (`isSetOf_sortedSet`). -/
def Json.Value.NamesAll (v : Value) (set : List String) : Prop :=
  ∃ names, v = .ofNames names ∧ IsSetOf set names

theorem Json.Value.NamesAll.takes {α : Type} {v : Value} {set : List String} (h : v.NamesAll set)
    (use : List String → α) :
    Takes (do return use (sortedSet (← Reader.list Reader.string))) v (use set) := by
  obtain ⟨names, rfl, hset⟩ := h
  rw [← sortedSet_eq_iff.mpr hset]
  exact (takes_ofNames names).bind rfl

/-! ### Allowed features -/

namespace FeatureSet

inductive NameField where
  | capabilities (set : List String)
  | extensions (set : List String)

namespace NameField

def name : NameField → String
  | capabilities _ => "capabilities"
  | extensions _ => "extensions"

def Gives : NameField → Value → Prop
  | capabilities set, v => v.NamesAll set
  | extensions set, v => v.NamesAll set

def set (s : List String × List String) : NameField → List String × List String
  | capabilities set => (set, s.2)
  | extensions set => (s.1, set)

end NameField

def schema : Schema (List String × List String) NameField :=
  .flat NameField.name NameField.Gives NameField.set

theorem fits : schema.Fits nameMembers := by
  refine Schema.fits_flat ?_ ?_ (by decide)
  · rintro (set | set)
    · exact ⟨_, rfl, fun v hv s => hv.takes fun names => (names, s.2)⟩
    · exact ⟨_, rfl, fun v hv s => hv.takes fun names => (s.1, names)⟩
  · intro m hm
    fin_cases hm
    exacts [⟨.capabilities [], rfl⟩, ⟨.extensions [], rfl⟩]

theorem commutes : schema.Commutes := by
  refine Schema.commutes_flat ?_
  rintro (_ | _) (_ | _) h s
  all_goals first | rfl | exact absurd rfl h

end FeatureSet

/-- The features that a text allows. -/
inductive GivenFeatures where
  | everything
  | only (fields : List FeatureSet.NameField)

namespace GivenFeatures

def features : GivenFeatures → FeatureSet
  | everything => .everything
  | only fs =>
    let s := fs.foldl FeatureSet.schema.set ([], [])
    .only s.1 s.2

/-- The names may also be given without their keys, first the capabilities. -/
inductive Gives : GivenFeatures → Value → Prop where
  | everything {v : Value} (h : v.Names "everything") : Gives .everything v
  | only {fs : List FeatureSet.NameField} {v : Value} (h : FeatureSet.schema.GivesAll fs v) :
      Gives (.only fs) (.object [(some "only", v)])
  | nothing : Gives (.only []) (.object [(some "only", .list [])])
  | capabilities {cs : List String} {v : Value} (h : v.NamesAll cs) :
      Gives (.only [.capabilities cs]) (.object [(some "only", .list [v])])
  | both {cs es : List String} {v w : Value} (hc : v.NamesAll cs) (he : w.NamesAll es) :
      Gives (.only [.capabilities cs, .extensions es]) (.object [(some "only", .list [v, w])])

def Once : GivenFeatures → Prop
  | everything => True
  | only fs => FeatureSet.schema.Distinct fs

def Alike : GivenFeatures → GivenFeatures → Prop
  | only fs, only gs => FeatureSet.schema.Rearranged fs gs
  | f, g => f = g

/-- How the names of a set are read, be they in an object or in a list. -/
theorem takes_only {v : Value} {s : List String × List String}
    (h : Takes (record "struct variant FeatureSet::Only" FeatureSet.nameMembers false ([], [])) v s) :
    Takes FeatureSet.reader (.object [(some "only", v)]) (.only s.1 s.2) := by
  have honly := h.bind (f := fun p => pure (FeatureSet.only p.1 p.2)) rfl
  exact takes_tagged rfl honly

theorem takes {g : GivenFeatures} {v : Value} (h : g.Gives v) (ho : g.Once) :
    Takes FeatureSet.reader v g.features := by
  cases h with
  | everything h => exact h.takes rfl
  | only h => exact takes_only (takes_record FeatureSet.fits h ho _ _ _)
  | nothing => exact takes_only (takes_inOrder (.done _ _) _)
  | capabilities h =>
    exact takes_only (takes_inOrder (.next (h.takes fun names => (names, _)) (.done _ _)) _)
  | both hc he =>
    exact takes_only (takes_inOrder (.next (hc.takes fun names => (names, _))
      (.next (he.takes fun names => (_, names)) (.done _ _))) _)

/-- Only an object can give names of one kind twice. -/
theorem refuses {g : GivenFeatures} {v : Value} (h : g.Gives v) (ho : ¬ g.Once) :
    Refuses FeatureSet.reader v := by
  cases h with
  | everything h => exact absurd trivial ho
  | only h => exact refuses_tagged rfl ((refuses_record FeatureSet.fits h ho _ _ _).bind _)
  | nothing => exact absurd ⟨by decide, fun _ _ => trivial⟩ ho
  | capabilities h => exact absurd ⟨List.nodup_singleton _, fun _ _ => trivial⟩ ho
  | both hc he =>
    have hnames : ["capabilities", "extensions"].Nodup := by decide
    exact absurd ⟨hnames, fun _ _ => trivial⟩ ho

theorem Alike.features_eq {g g' : GivenFeatures} (h : g.Alike g') (ho : g.Once) :
    g'.Once ∧ g'.features = g.features := by
  cases g with
  | everything =>
    cases g' with
    | everything => exact ⟨ho, rfl⟩
    | only gs => cases h
  | only fs =>
    cases g' with
    | everything => cases h
    | only gs =>
      obtain ⟨hd, hsets⟩ := FeatureSet.commutes.of_rearranged h ho
      exact ⟨hd, by rw [features, features, hsets]⟩

end GivenFeatures

/-! ### Sections -/

inductive CodecField where
  | targetEnv (e : TargetEnv)
  | friendlyNames (b : Bool)
  | preserveNumericIds (b : Bool)
  | indent (b : Bool)
  | comment (b : Bool)

namespace CodecField

def name : CodecField → String
  | targetEnv _ => "target_env"
  | friendlyNames _ => "friendly_names"
  | preserveNumericIds _ => "preserve_numeric_ids"
  | indent _ => "indent"
  | comment _ => "comment"

def Gives : CodecField → Value → Prop
  | targetEnv e, v => v.Names e.name
  | friendlyNames b, v => v = .bool b
  | preserveNumericIds b, v => v = .bool b
  | indent b, v => v = .bool b
  | comment b, v => v = .bool b

def set (o : CodecOptions) : CodecField → CodecOptions
  | targetEnv e => { o with targetEnv := e }
  | friendlyNames b => { o with friendlyNames := b }
  | preserveNumericIds b => { o with preserveNumericIds := b }
  | indent b => { o with indent := b }
  | comment b => { o with comment := b }

end CodecField

namespace CodecOptions

def schema : Schema CodecOptions CodecField := .flat CodecField.name CodecField.Gives CodecField.set

theorem fits : schema.Fits members := by
  refine Schema.fits_flat ?_ ?_ (by decide)
  · rintro (e | b | b | b | b)
    · exact ⟨_, rfl, fun v hv s => (TargetEnv.takes hv).bind rfl⟩
    all_goals exact ⟨_, rfl, by rintro v rfl s; exact (takes_boolean b).bind rfl⟩
  · intro m hm
    fin_cases hm
    exacts [⟨.targetEnv default, rfl⟩, ⟨.friendlyNames default, rfl⟩,
      ⟨.preserveNumericIds default, rfl⟩, ⟨.indent default, rfl⟩, ⟨.comment default, rfl⟩]

theorem commutes : schema.Commutes := by
  refine Schema.commutes_flat ?_
  rintro (_ | _ | _ | _ | _) (_ | _ | _ | _ | _) h s
  all_goals first | rfl | exact absurd rfl h

end CodecOptions

inductive ReaderField where
  | allowedFeatures (g : GivenFeatures)
  | adjustCoordinateSpace (b : Bool)
  | strictCapabilities (b : Bool)

namespace ReaderField

def name : ReaderField → String
  | allowedFeatures _ => "allowed_features"
  | adjustCoordinateSpace _ => "adjust_coordinate_space"
  | strictCapabilities _ => "strict_capabilities"

def Gives : ReaderField → Value → Prop
  | allowedFeatures g, v => g.Gives v
  | adjustCoordinateSpace b, v => v = .bool b
  | strictCapabilities b, v => v = .bool b

def set (o : ReaderOptions) : ReaderField → ReaderOptions
  | allowedFeatures g => { o with allowedFeatures := g.features }
  | adjustCoordinateSpace b => { o with adjustCoordinateSpace := b }
  | strictCapabilities b => { o with strictCapabilities := b }

def Once : ReaderField → Prop
  | allowedFeatures g => g.Once
  | _ => True

def Alike : ReaderField → ReaderField → Prop
  | allowedFeatures g, allowedFeatures g' => g.Alike g'
  | f, g => f = g

end ReaderField

namespace ReaderOptions

def schema : Schema ReaderOptions ReaderField where
  name := ReaderField.name
  Gives := ReaderField.Gives
  set := ReaderField.set
  Once := ReaderField.Once
  Alike := ReaderField.Alike

theorem fits : schema.Fits members where
  takes := by
    rintro (g | b | b)
    · exact ⟨_, rfl, fun v hv s =>
        ⟨fun ho => (GivenFeatures.takes hv ho).bind rfl, fun ho => (GivenFeatures.refuses hv ho).bind _⟩⟩
    all_goals
      refine ⟨_, rfl, ?_⟩
      rintro v rfl s
      exact ⟨fun _ => (takes_boolean b).bind rfl, fun ho => absurd trivial ho⟩
  known := by
    intro m hm
    fin_cases hm
    exacts [⟨.allowedFeatures .everything, rfl⟩, ⟨.adjustCoordinateSpace default, rfl⟩,
      ⟨.strictCapabilities default, rfl⟩]
  optional := by decide

theorem commutes : schema.Commutes where
  comm := by
    rintro (_ | _ | _) (_ | _ | _) h s
    all_goals first | rfl | exact absurd rfl h
  alike := by
    rintro (g | b | b) (g' | b' | b') h ho
    · obtain ⟨ho', hfeatures⟩ := GivenFeatures.Alike.features_eq h ho
      exact ⟨rfl, ho', fun s => congrArg (fun x => { s with allowedFeatures := x }) hfeatures⟩
    all_goals cases h <;> exact ⟨rfl, ho, fun s => rfl⟩

end ReaderOptions

inductive SourceField where
  | explicitTypes (b : Bool)

namespace SourceOptions

def schema : Schema SourceOptions SourceField :=
  .flat (fun _ => "explicit_types") (fun ⟨b⟩ v => v = .bool b)
    (fun o ⟨b⟩ => { o with explicitTypes := b })

theorem fits : schema.Fits members := by
  refine Schema.fits_flat ?_ ?_ (by decide)
  · rintro ⟨b⟩
    exact ⟨_, rfl, by rintro v rfl s; exact (takes_boolean b).bind rfl⟩
  · intro m hm
    fin_cases hm
    exact ⟨.explicitTypes default, rfl⟩

theorem commutes : schema.Commutes := Schema.commutes_flat fun _ _ h _ => absurd rfl h

end SourceOptions

inductive BinaryField where
  | spirvVersion (major minor : UInt8)
  | boundsCheck (b : BoundsCheck)
  | disableRobustness (b : Bool)
  | debugInfo (b : Bool)
  | adjustCoordinateSpace (b : Bool)

namespace BinaryField

def name : BinaryField → String
  | spirvVersion _ _ => "spirv_version"
  | boundsCheck _ => "bounds_check"
  | disableRobustness _ => "disable_robustness"
  | debugInfo _ => "debug_info"
  | adjustCoordinateSpace _ => "adjust_coordinate_space"

def Gives : BinaryField → Value → Prop
  | spirvVersion a b, v => v = .list [.number (some a.toNat), .number (some b.toNat)]
  | boundsCheck b, v => v.Names b.name
  | disableRobustness b, v => v = .bool b
  | debugInfo b, v => v = .bool b
  | adjustCoordinateSpace b, v => v = .bool b

def set (o : BinaryOptions) : BinaryField → BinaryOptions
  | spirvVersion a b => { o with major := a, minor := b }
  | boundsCheck b => { o with boundsCheck := b }
  | disableRobustness b => { o with disableRobustness := b }
  | debugInfo b => { o with debugInfo := b }
  | adjustCoordinateSpace b => { o with adjustCoordinateSpace := b }

end BinaryField

namespace BinaryOptions

def schema : Schema BinaryOptions BinaryField :=
  .flat BinaryField.name BinaryField.Gives BinaryField.set

theorem takes_byte (b : UInt8) : Takes (natural 256 "u8") (.number (some b.toNat)) b.toNat :=
  takes_natural b.toNat_lt (Nat.lt_trans b.toNat_lt (by decide)) "u8"

theorem fits : schema.Fits members := by
  refine Schema.fits_flat ?_ ?_ (by decide)
  · rintro (⟨a, b⟩ | b | b | b | b)
    · refine ⟨_, rfl, ?_⟩
      rintro v rfl s
      refine (takes_pair (takes_byte a) (takes_byte b)).bind ?_
      simp [BinaryField.set]
    · exact ⟨_, rfl, fun v hv s => (BoundsCheck.takes hv).bind rfl⟩
    all_goals exact ⟨_, rfl, by rintro v rfl s; exact (takes_boolean b).bind rfl⟩
  · intro m hm
    fin_cases hm
    exacts [⟨.spirvVersion 1 0, rfl⟩, ⟨.boundsCheck default, rfl⟩, ⟨.disableRobustness default, rfl⟩,
      ⟨.debugInfo default, rfl⟩, ⟨.adjustCoordinateSpace default, rfl⟩]

theorem commutes : schema.Commutes := by
  refine Schema.commutes_flat ?_
  rintro (_ | _ | _ | _ | _) (_ | _ | _ | _ | _) h s
  all_goals first | rfl | exact absurd rfl h

end BinaryOptions

/-! ### Options -/

inductive OptionField where
  | codec (fields : List CodecField)
  | reader (fields : List ReaderField)
  | source (fields : List SourceField)
  | binary (fields : List BinaryField)
  | validateBinary (b : Bool)
  | verifySourceRoundtrip (b : Bool)

namespace OptionField

def name : OptionField → String
  | codec _ => "codec"
  | reader _ => "reader"
  | source _ => "source"
  | binary _ => "binary"
  | validateBinary _ => "validate_binary"
  | verifySourceRoundtrip _ => "verify_source_roundtrip"

/-- A section is again an object with some of its fields. -/
def Gives : OptionField → Value → Prop
  | codec fs, v => CodecOptions.schema.GivesAll fs v
  | reader fs, v => ReaderOptions.schema.GivesAll fs v
  | source fs, v => SourceOptions.schema.GivesAll fs v
  | binary fs, v => BinaryOptions.schema.GivesAll fs v
  | validateBinary b, v => v = .bool b
  | verifySourceRoundtrip b, v => v = .bool b

/-- A section starts from its own defaults. -/
def set (o : PipelineOptions) : OptionField → PipelineOptions
  | codec fs => { o with codec := fs.foldl CodecOptions.schema.set {} }
  | reader fs => { o with reader := fs.foldl ReaderOptions.schema.set {} }
  | source fs => { o with source := fs.foldl SourceOptions.schema.set {} }
  | binary fs => { o with binary := fs.foldl BinaryOptions.schema.set {} }
  | validateBinary b => { o with validateBinary := b }
  | verifySourceRoundtrip b => { o with verifySourceRoundtrip := b }

def Once : OptionField → Prop
  | codec fs => CodecOptions.schema.Distinct fs
  | reader fs => ReaderOptions.schema.Distinct fs
  | source fs => SourceOptions.schema.Distinct fs
  | binary fs => BinaryOptions.schema.Distinct fs
  | _ => True

def Alike : OptionField → OptionField → Prop
  | codec fs, codec gs => CodecOptions.schema.Rearranged fs gs
  | reader fs, reader gs => ReaderOptions.schema.Rearranged fs gs
  | source fs, source gs => SourceOptions.schema.Rearranged fs gs
  | binary fs, binary gs => BinaryOptions.schema.Rearranged fs gs
  | f, g => f = g

end OptionField

namespace PipelineOptions

def schema : Schema PipelineOptions OptionField where
  name := OptionField.name
  Gives := OptionField.Gives
  set := OptionField.set
  Once := OptionField.Once
  Alike := OptionField.Alike

theorem fits : schema.Fits members where
  takes := by
    rintro (fs | fs | fs | fs | b | b)
    · exact ⟨_, rfl, fun v hv s => record_bind CodecOptions.fits hv (by rfl) _ _⟩
    · exact ⟨_, rfl, fun v hv s => record_bind ReaderOptions.fits hv (by rfl) _ _⟩
    · exact ⟨_, rfl, fun v hv s => record_bind SourceOptions.fits hv (by rfl) _ _⟩
    · exact ⟨_, rfl, fun v hv s => record_bind BinaryOptions.fits hv (by rfl) _ _⟩
    all_goals
      refine ⟨_, rfl, ?_⟩
      rintro v rfl s
      exact ⟨fun _ => (takes_boolean b).bind rfl, fun ho => absurd trivial ho⟩
  known := by
    intro m hm
    fin_cases hm
    exacts [⟨.codec [], rfl⟩, ⟨.reader [], rfl⟩, ⟨.source [], rfl⟩, ⟨.binary [], rfl⟩,
      ⟨.validateBinary default, rfl⟩, ⟨.verifySourceRoundtrip default, rfl⟩]
  optional := by decide

theorem commutes : schema.Commutes where
  comm := by
    rintro (_ | _ | _ | _ | _ | _) (_ | _ | _ | _ | _ | _) h s
    all_goals first | rfl | exact absurd rfl h
  alike := by
    intro f g h ho
    cases f with
    | codec fs =>
      cases g with
      | codec gs =>
        obtain ⟨hd, hsets⟩ := CodecOptions.commutes.of_rearranged h ho
        exact ⟨rfl, hd, fun s => congrArg (fun x => { s with codec := x }) (hsets {})⟩
      | _ => cases h
    | reader fs =>
      cases g with
      | reader gs =>
        obtain ⟨hd, hsets⟩ := ReaderOptions.commutes.of_rearranged h ho
        exact ⟨rfl, hd, fun s => congrArg (fun x => { s with reader := x }) (hsets {})⟩
      | _ => cases h
    | source fs =>
      cases g with
      | source gs =>
        obtain ⟨hd, hsets⟩ := SourceOptions.commutes.of_rearranged h ho
        exact ⟨rfl, hd, fun s => congrArg (fun x => { s with source := x }) (hsets {})⟩
      | _ => cases h
    | binary fs =>
      cases g with
      | binary gs =>
        obtain ⟨hd, hsets⟩ := BinaryOptions.commutes.of_rearranged h ho
        exact ⟨rfl, hd, fun s => congrArg (fun x => { s with binary := x }) (hsets {})⟩
      | _ => cases h
    | validateBinary b =>
      obtain rfl : .validateBinary b = g := h
      exact ⟨rfl, ho, fun s => rfl⟩
    | verifySourceRoundtrip b =>
      obtain rfl : .verifySourceRoundtrip b = g := h
      exact ⟨rfl, ho, fun s => rfl⟩

end PipelineOptions

end ShaderConvert
