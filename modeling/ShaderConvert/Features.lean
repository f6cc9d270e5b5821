import ShaderConvert.Words
import ShaderConvert.Text.Lines
import ShaderConvert.Features.Capability

/-
The features a binary module asks for, and the set of those it may.

* `ModuleFeatures.scan` reads the header and the capabilities and extensions that come before any
  other instruction.
* `FeatureSet.check` accepts a module if all it asks for is allowed, and names the first feature
  that is not.
-/
namespace ShaderConvert

/-- What is wrong with the beginning of a module. -/
inductive ScanFault where
  | shortHeader (words : Nat)
  | badMagic (word : Word)
  | truncated (index : Nat)
  | noCapability (index : Nat)
deriving Repr, DecidableEq

/-- The number of words before the first instruction. -/
def headerWords : Nat := 5

def ScanFault.message : ScanFault → String
  | shortHeader n => s!"module has {n} words, header needs {headerWords}"
  | badMagic w => "bad magic number 0x" ++ Text.hex 8 w.toNat
  | truncated i => s!"truncated instruction at word {i}"
  | noCapability i => s!"OpCapability without operand at word {i}"

/-- Header and declared features of a module. -/
structure ModuleFeatures where
  major : UInt8
  minor : UInt8
  generator : Word
  bound : Word
  capabilities : List String
  extensions : List String
deriving Repr, DecidableEq, Inhabited

namespace Opcode

def extension : Nat := 10
def capability : Nat := 17

end Opcode

/-- The number of words of an instruction, from its first word. -/
def wordCount (w : Word) : Nat := (w >>> 16).toNat

/-- The opcode of an instruction, from its first word. -/
def opcodeOf (w : Word) : Nat := (w &&& 0xFFFF).toNat

namespace ModuleFeatures

/-- A capability or an extension, by name. -/
inductive Feature where
  | capability (name : String)
  | extension (name : String)
deriving Repr, DecidableEq

/-- The features declared at the front of `ws`, which begins at word `index` of the module. Every
instruction takes at least one word, so `fuel` words are enough for `fuel` steps. -/
def scanFrom (fuel index : Nat) (ws : List Word) : Except ScanFault (List Feature) :=
  match fuel, ws with
  | 0, _ => .ok []
  | _, [] => .ok []
  | fuel + 1, w :: r =>
    let n := wordCount w
    if n = 0 ∨ n > r.length + 1 then .error (.truncated index)
    else
      let operands := r.take (n - 1)
      let next := scanFrom fuel (index + n) (r.drop (n - 1))
      if opcodeOf w = Opcode.capability then
        match operands with
        | [] => .error (.noCapability index)
        | v :: _ => next.map (.capability (Capability.name v.toNat) :: ·)
      else if opcodeOf w = Opcode.extension then
        next.map (.extension (Words.decodeLiteral operands) :: ·)
      else .ok []

def scan (ws : List Word) : Except ScanFault ModuleFeatures :=
  match ws with
  | m :: version :: generator :: bound :: _ :: r =>
    if m ≠ Words.magic then .error (.badMagic m)
    else
      (scanFrom r.length headerWords r).map fun fs =>
        { major := (version >>> 16).toUInt8
          minor := (version >>> 8).toUInt8
          generator := generator
          bound := bound
          capabilities := fs.filterMap fun
            | .capability n => some n
            | .extension _ => none
          extensions := fs.filterMap fun
            | .capability _ => none
            | .extension n => some n }
  | _ => .error (.shortHeader ws.length)

end ModuleFeatures

/-- The order of texts by their bytes. -/
def bytesLe (a b : String) : Bool := decide (a ≤ b)

/-- The members of a list without repetition, in order. -/
def sortedSet (names : List String) : List String :=
  (names.mergeSort bytesLe).eraseDups

/-- Which features a module may ask for. -/
inductive FeatureSet where
  | everything
  | only (capabilities extensions : List String)
deriving Repr, DecidableEq, Inhabited

/-- Why a module is refused. -/
inductive FeatureFault where
  | scan (fault : ScanFault)
  | capability (name : String)
  | extension (name : String)
deriving Repr, DecidableEq

def FeatureFault.message : FeatureFault → String
  | scan f => f.message
  | capability n => "capability " ++ n ++ " is not allowed"
  | extension n => "extension " ++ n ++ " is not allowed"

namespace FeatureSet

/-- The set of the given names; order and repetition do not matter. -/
def ofNames (capabilities extensions : List String) : FeatureSet :=
  only (sortedSet capabilities) (sortedSet extensions)

def allowsCapability : FeatureSet → String → Bool
  | everything, _ => true
  | only cs _, n => cs.contains n

def allowsExtension : FeatureSet → String → Bool
  | everything, _ => true
  | only _ es, n => es.contains n

/-- The features of a module, if all of them are allowed; else the first capability that is not, or
if there is none the first such extension. -/
def check (s : FeatureSet) (ws : List Word) : Except FeatureFault ModuleFeatures :=
  match ModuleFeatures.scan ws with
  | .error f => .error (.scan f)
  | .ok m =>
    match m.capabilities.find? (!s.allowsCapability ·) with
    | some n => .error (.capability n)
    | none =>
      match m.extensions.find? (!s.allowsExtension ·) with
      | some n => .error (.extension n)
      | none => .ok m

end FeatureSet

end ShaderConvert
