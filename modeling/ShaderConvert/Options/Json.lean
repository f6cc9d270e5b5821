import ShaderConvert.Options
import ShaderConvert.Json.Document
import ShaderConvert.Json.Writer

/-
Options as JSON text.

Writing gives every member in order. Reading starts from the defaults: members may be left out,
come in any order, and unknown ones are passed over; a section may also be a list of its members.
-/
namespace ShaderConvert

open Json

namespace FeatureSet

def toJson : FeatureSet → String
  | everything => writeString "everything"
  | only cs es =>
    writeObject [("only", writeObject
      [("capabilities", writeList (cs.map writeString)),
        ("extensions", writeList (es.map writeString))])]

/-- The names of a set while they are read: capabilities, then extensions. -/
def nameMembers : List (Reader.Member (List String × List String)) :=
  [{ name := "capabilities"
     read := fun s => do return (sortedSet (← Reader.list Reader.string), s.2) },
   { name := "extensions"
     read := fun s => do return (s.1, sortedSet (← Reader.list Reader.string)) }]

def reader : Reader FeatureSet :=
  Reader.variant
    [.plain "everything" .everything,
      ⟨"only", none, do
        let (cs, es) ←
          Reader.record "struct variant FeatureSet::Only" nameMembers false ([], [])
        pure (.only cs es)⟩]

end FeatureSet

namespace TargetEnv

def reader : Reader TargetEnv := Reader.variant (all.map fun e => .plain e.name e)

end TargetEnv

namespace BoundsCheck

def reader : Reader BoundsCheck := Reader.variant (all.map fun e => .plain e.name e)

end BoundsCheck

namespace CodecProfile

/-- The profile of a name. -/
def ofName (name : String) : Except Error CodecProfile :=
  match all.find? (·.name = name) with
  | some p => .ok p
  | none => .error (.config (Cause.unknownVariant name (all.map (·.name))).describe)

end CodecProfile

namespace CodecOptions

def toJson (o : CodecOptions) : String :=
  writeObject
    [("target_env", writeString o.targetEnv.name),
      ("friendly_names", writeBool o.friendlyNames),
      ("preserve_numeric_ids", writeBool o.preserveNumericIds),
      ("indent", writeBool o.indent),
      ("comment", writeBool o.comment)]

def members : List (Reader.Member CodecOptions) :=
  [{ name := "target_env", read := fun o => do return { o with targetEnv := ← TargetEnv.reader } },
   { name := "friendly_names"
     read := fun o => do return { o with friendlyNames := ← Reader.boolean } },
   { name := "preserve_numeric_ids"
     read := fun o => do return { o with preserveNumericIds := ← Reader.boolean } },
   { name := "indent", read := fun o => do return { o with indent := ← Reader.boolean } },
   { name := "comment", read := fun o => do return { o with comment := ← Reader.boolean } }]

def reader : Reader CodecOptions := Reader.record "struct CodecOptions" members false {}

end CodecOptions

namespace ReaderOptions

def toJson (o : ReaderOptions) : String :=
  writeObject
    [("allowed_features", o.allowedFeatures.toJson),
      ("adjust_coordinate_space", writeBool o.adjustCoordinateSpace),
      ("strict_capabilities", writeBool o.strictCapabilities)]

def members : List (Reader.Member ReaderOptions) :=
  [{ name := "allowed_features"
     read := fun o => do return { o with allowedFeatures := ← FeatureSet.reader } },
   { name := "adjust_coordinate_space"
     read := fun o => do return { o with adjustCoordinateSpace := ← Reader.boolean } },
   { name := "strict_capabilities"
     read := fun o => do return { o with strictCapabilities := ← Reader.boolean } }]

def reader : Reader ReaderOptions := Reader.record "struct ReaderOptions" members false {}

end ReaderOptions

namespace SourceOptions

def toJson (o : SourceOptions) : String :=
  writeObject [("explicit_types", writeBool o.explicitTypes)]

def members : List (Reader.Member SourceOptions) :=
  [{ name := "explicit_types"
     read := fun o => do return { o with explicitTypes := ← Reader.boolean } }]

def reader : Reader SourceOptions := Reader.record "struct SourceOptions" members false {}

end SourceOptions

namespace BinaryOptions

def toJson (o : BinaryOptions) : String :=
  writeObject
    [("spirv_version", writeList [toString o.major, toString o.minor]),
      ("bounds_check", writeString o.boundsCheck.name),
      ("disable_robustness", writeBool o.disableRobustness),
      ("debug_info", writeBool o.debugInfo),
      ("adjust_coordinate_space", writeBool o.adjustCoordinateSpace)]

def members : List (Reader.Member BinaryOptions) :=
  [{ name := "spirv_version"
     read := fun o => do
       let (a, b) ← Reader.pair (Reader.natural 256 "u8")
       return { o with major := a.toUInt8, minor := b.toUInt8 } },
   { name := "bounds_check"
     read := fun o => do return { o with boundsCheck := ← BoundsCheck.reader } },
   { name := "disable_robustness"
     read := fun o => do return { o with disableRobustness := ← Reader.boolean } },
   { name := "debug_info", read := fun o => do return { o with debugInfo := ← Reader.boolean } },
   { name := "adjust_coordinate_space"
     read := fun o => do return { o with adjustCoordinateSpace := ← Reader.boolean } }]

def reader : Reader BinaryOptions := Reader.record "struct BinaryOptions" members false {}

end BinaryOptions

namespace PipelineOptions

def toJson (o : PipelineOptions) : String :=
  writeObject
    [("codec", o.codec.toJson),
      ("reader", o.reader.toJson),
      ("source", o.source.toJson),
      ("binary", o.binary.toJson),
      ("validate_binary", writeBool o.validateBinary),
      ("verify_source_roundtrip", writeBool o.verifySourceRoundtrip)]

def members : List (Reader.Member PipelineOptions) :=
  [{ name := "codec", read := fun o => do return { o with codec := ← CodecOptions.reader } },
   { name := "reader", read := fun o => do return { o with reader := ← ReaderOptions.reader } },
   { name := "source", read := fun o => do return { o with source := ← SourceOptions.reader } },
   { name := "binary", read := fun o => do return { o with binary := ← BinaryOptions.reader } },
   { name := "validate_binary"
     read := fun o => do return { o with validateBinary := ← Reader.boolean } },
   { name := "verify_source_roundtrip"
     read := fun o => do return { o with verifySourceRoundtrip := ← Reader.boolean } }]

def jsonReader : Reader PipelineOptions := Reader.record "struct PipelineOptions" members false {}

/-- Options from their text, whether a stage can honour them or not. -/
def decode (text : String) : Except Error PipelineOptions :=
  (Reader.run jsonReader text).mapError .config

/-- Options from their text. -/
def ofJson (text : String) : Except Error PipelineOptions := do
  let o ← decode text
  o.check
  return o

end PipelineOptions

/-- Read a text with one of the readers of this module. -/
def decodeConfig {α : Type} (r : Reader α) (text : String) : Except Error α :=
  (Reader.run r text).mapError .config

end ShaderConvert
