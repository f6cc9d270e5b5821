import ShaderConvert.Features

/-
The options of a conversion, one section for each stage family, and which combinations no stage can
honour (`PipelineOptions.check`).
-/
namespace ShaderConvert

/-- The environment that a binary module is written for. -/
inductive TargetEnv where
  | universal1_0
  | universal1_1
  | universal1_2
  | universal1_3
  | universal1_4
  | universal1_5
  | vulkan1_0
  | vulkan1_1
  | vulkan1_2
deriving Repr, DecidableEq, Inhabited

namespace TargetEnv

def all : List TargetEnv :=
  [universal1_0, universal1_1, universal1_2, universal1_3, universal1_4, universal1_5, vulkan1_0,
    vulkan1_1, vulkan1_2]

/-- The name in option texts. -/
def name : TargetEnv → String
  | universal1_0 => "universal1_0"
  | universal1_1 => "universal1_1"
  | universal1_2 => "universal1_2"
  | universal1_3 => "universal1_3"
  | universal1_4 => "universal1_4"
  | universal1_5 => "universal1_5"
  | vulkan1_0 => "vulkan1_0"
  | vulkan1_1 => "vulkan1_1"
  | vulkan1_2 => "vulkan1_2"

/-- The name in messages. -/
def title : TargetEnv → String
  | universal1_0 => "Universal1_0"
  | universal1_1 => "Universal1_1"
  | universal1_2 => "Universal1_2"
  | universal1_3 => "Universal1_3"
  | universal1_4 => "Universal1_4"
  | universal1_5 => "Universal1_5"
  | vulkan1_0 => "Vulkan1_0"
  | vulkan1_1 => "Vulkan1_1"
  | vulkan1_2 => "Vulkan1_2"

/-- The newest module version that the environment takes: the minor number, the major one being
one. -/
def minor : TargetEnv → UInt8
  | universal1_0 | vulkan1_0 => 0
  | universal1_1 => 1
  | universal1_2 => 2
  | universal1_3 | vulkan1_1 => 3
  | universal1_4 => 4
  | universal1_5 | vulkan1_2 => 5

end TargetEnv

/-- Options of the assembler and the disassembler. -/
structure CodecOptions where
  targetEnv : TargetEnv := .universal1_5
  friendlyNames : Bool := false
  preserveNumericIds : Bool := true
  indent : Bool := false
  comment : Bool := false
deriving Repr, DecidableEq, Inhabited

/-- Named settings of the codec. -/
inductive CodecProfile where
  | plain
  | friendly
deriving Repr, DecidableEq, Inhabited

namespace CodecProfile

def name : CodecProfile → String
  | plain => "plain"
  | friendly => "friendly"

def all : List CodecProfile := [plain, friendly]

def options : CodecProfile → CodecOptions
  | plain => {}
  | friendly => { targetEnv := .universal1_4, friendlyNames := true, indent := true }

end CodecProfile

structure ReaderOptions where
  allowedFeatures : FeatureSet := .everything
  adjustCoordinateSpace : Bool := false
  strictCapabilities : Bool := false
deriving Repr, DecidableEq, Inhabited

structure SourceOptions where
  explicitTypes : Bool := false
deriving Repr, DecidableEq, Inhabited

/-- What happens to an index out of range. -/
inductive BoundsCheck where
  /-- It is clamped. -/
  | restrict
  /-- Reading gives zero, writing does nothing. -/
  | readZeroSkipWrite
  /-- Nothing is done about it. -/
  | unchecked
deriving Repr, DecidableEq, Inhabited

namespace BoundsCheck

def all : List BoundsCheck := [restrict, readZeroSkipWrite, unchecked]

def name : BoundsCheck → String
  | restrict => "restrict"
  | readZeroSkipWrite => "read_zero_skip_write"
  | unchecked => "unchecked"

def title : BoundsCheck → String
  | restrict => "Restrict"
  | readZeroSkipWrite => "ReadZeroSkipWrite"
  | unchecked => "Unchecked"

end BoundsCheck

structure BinaryOptions where
  major : UInt8 := 1
  minor : UInt8 := 0
  boundsCheck : BoundsCheck := .restrict
  disableRobustness : Bool := false
  debugInfo : Bool := true
  adjustCoordinateSpace : Bool := false
deriving Repr, DecidableEq, Inhabited

/-- The policy that is applied: none at all if robustness is off. -/
def BinaryOptions.effectiveBoundsCheck (o : BinaryOptions) : BoundsCheck :=
  if o.disableRobustness then .unchecked else o.boundsCheck

structure PipelineOptions where
  codec : CodecOptions := {}
  reader : ReaderOptions := {}
  source : SourceOptions := {}
  binary : BinaryOptions := {}
  validateBinary : Bool := false
  verifySourceRoundtrip : Bool := false
deriving Repr, DecidableEq, Inhabited

namespace PipelineOptions

def ofProfile (p : CodecProfile) : PipelineOptions := { codec := p.options }

/-- A version that no stage can write, or that the codec's environment does not take. -/
inductive VersionFault where
  | unsupported (major minor : UInt8)
  | beyondEnvironment (major minor : UInt8) (env : TargetEnv)
deriving Repr, DecidableEq

def VersionFault.message : VersionFault → String
  | unsupported a b => s!"unsupported SPIR-V version {a}.{b}"
  | beyondEnvironment a b env =>
    s!"SPIR-V {a}.{b} output cannot be disassembled for target environment " ++ env.title

/-- Versions 1.0 to 1.5 are written, and only up to the version of the environment. -/
def versionFault? (o : PipelineOptions) : Option VersionFault :=
  if o.binary.major ≠ 1 ∨ o.binary.minor > 5 then
    some (.unsupported o.binary.major o.binary.minor)
  else if o.binary.minor > o.codec.targetEnv.minor then
    some (.beyondEnvironment o.binary.major o.binary.minor o.codec.targetEnv)
  else none

def check (o : PipelineOptions) : Except Error Unit :=
  match o.versionFault? with
  | some f => .error (.config f.message)
  | none => .ok ()

end PipelineOptions

end ShaderConvert
