import ShaderConvert.Conversion

/-
What goes into a conversion and what comes out: payloads, artifacts and buffers that a caller
owns.
-/
namespace ShaderConvert

/-- The input of a conversion, as the caller has it. -/
inductive Payload where
  | bytes (bs : List UInt8)
  | words (ws : List Word)
  | text (s : String)
deriving Repr, DecidableEq, Inhabited

/-- The payload as text, if it is that. -/
def Payload.text? : Payload → Option String
  | text s => some s
  | bytes bs =>
    match Utf8.decode bs with
    | .ok s => some s
    | .error _ => none
  | words _ => none

/-- The output of a conversion. -/
inductive Artifact where
  | assembly (text : String)
  | source (text : String)
  | binary (words : List Word)
deriving Repr, DecidableEq, Inhabited

namespace Artifact

def kind : Artifact → OutputKind
  | assembly _ => .assembly
  | source _ => .source
  | binary _ => .binary

def text? : Artifact → Option String
  | assembly t => some t
  | source t => some t
  | binary _ => none

def words? : Artifact → Option (List Word)
  | binary ws => some ws
  | _ => none

end Artifact

/-- The bytes of a text without zero bytes. -/
def reportBytes (text : String) : List UInt8 := (Utf8.encode text).filter (· ≠ 0)

/-- A buffer handed to the caller: texts have a zero byte behind the payload that `size` does not
count, words come least significant byte first. -/
structure OwnedBuffer where
  kind : Option OutputKind
  stored : List UInt8
  size : Nat
deriving Repr, DecidableEq, Inhabited

namespace OwnedBuffer

def ofText (kind : Option OutputKind) (bytes : List UInt8) : OwnedBuffer :=
  ⟨kind, bytes ++ [0], bytes.length⟩

def ofArtifact (a : Artifact) : OwnedBuffer :=
  match a with
  | .assembly t => ofText (some .assembly) (Utf8.encode t)
  | .source t => ofText (some .source) (Utf8.encode t)
  | .binary ws =>
    let bytes := Words.toBytes ws
    ⟨some .binary, bytes, bytes.length⟩

/-- The report of a failed call. -/
def ofReport (text : String) : OwnedBuffer := ofText none (reportBytes text)

/-- The bytes that count. -/
def payload (b : OwnedBuffer) : List UInt8 := b.stored.take b.size

/-- The byte behind the payload, if there is one. -/
def terminator? (b : OwnedBuffer) : Option UInt8 := b.stored[b.size]?

end OwnedBuffer

end ShaderConvert
