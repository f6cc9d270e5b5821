import ShaderConvert.Spirv.Assembly.Encode
import ShaderConvert.Spirv.Disassembly
import ShaderConvert.Spirv.Validity

/-
The codec: assembly text to words, words to assembly text, and the check of words, with what each
has to say about its input as a diagnostic. Only the first line of a message is shown.
-/
namespace ShaderConvert.Codec

def firstLine (s : String) : String := String.ofList (s.toList.takeWhile (· ≠ '\n'))

/-- A diagnostic about a binary module, at an instruction or at the module as a whole. -/
def binaryDiagnostic (index : Nat) (message : String) : ToolDiagnostic :=
  ⟨0, 0, index, firstLine message, false⟩

def assemble (o : AssembleSettings) (text : String) : Reply (Option ToolDiagnostic) (List Word) :=
  match Spirv.Assembly.assemble o.targetEnv.minor.toNat o.preserveNumericIds text with
  | .ok ws => .ok ws
  | .error f => .error (some { f.diagnostic with message := firstLine f.fault.message })

def disassemble (o : DisassembleSettings) (ws : List Word) :
    Reply (Option ToolDiagnostic) (Option String) :=
  match Spirv.Disassembly.disassemble o ws with
  | .ok text => .ok (some text)
  | .error (n, f) => .error (some (binaryDiagnostic n f.message))

def validate (env : TargetEnv) (ws : List Word) : Reply (Option ToolDiagnostic) Unit :=
  match Spirv.Validity.check env ws with
  | .ok _ => .ok ()
  | .error (n, f) => .error (some (binaryDiagnostic n f.message))

end ShaderConvert.Codec
