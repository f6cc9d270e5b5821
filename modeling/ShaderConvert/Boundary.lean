import ShaderConvert.Pipeline
import ShaderConvert.Options.Json

/-
The boundary to a host program.

Shared calls convert with the default options and leave their result in a cache that all of them
use (`Boundary.shared`). An owned call takes options of its own, touches no cache and hands its
result or its report to the caller (`Boundary.owned`).
-/
namespace ShaderConvert

/-- A buffer of the host: a pointer to data, or a null pointer with the length it is said to
have. -/
inductive HostBuffer (α : Type) where
  | data (xs : List α)
  | null (length : Nat)
deriving Repr, DecidableEq

/-- The data of a buffer; a null pointer is the empty buffer, and nothing else. -/
def HostBuffer.read {α : Type} : HostBuffer α → Except Error (List α)
  | data xs => .ok xs
  | null n => if n = 0 then .ok [] else .error (.invalidInput s!"null input pointer with length {n}")

/-- The version of this library. -/
def version : String := "0.1.0"

namespace Boundary

variable {M : Type} (tools : Toolchain M)

/-- The input of a shared call: words for binary input, else bytes. -/
inductive SharedInput where
  | words (b : HostBuffer Word)
  | bytes (b : HostBuffer UInt8)
deriving Repr, DecidableEq

def SharedInput.payload : SharedInput → Except Error Payload
  | .words b => b.read.map .words
  | .bytes b => b.read.map .bytes

/-- A shared call: the slot it filled, or nothing after a failure, and the cache afterwards. -/
def shared (cache : ResultCache) (c : Conversion) (input : SharedInput) :
    Option SlotValue × ResultCache :=
  match input.payload with
  | .error e => (none, cache.recordFailure (c.display ++ ": " ++ e.display))
  | .ok p =>
    match Pipeline.publishInto tools {} cache c p with
    | (.ok a, cache) => (some (.ofArtifact a), cache)
    | (.error _, cache) => (none, cache)
    | (.abort _, cache) => (none, cache.recordFailure (c.display ++ ": internal error"))

/-- The options of an owned call: defaults if there are none. -/
def ownedOptions (c : Conversion) (options : HostBuffer UInt8) : Except String PipelineOptions :=
  match options.read with
  | .error e => .error e.display
  | .ok [] => .ok {}
  | .ok bs =>
    let read := match Utf8.decode bs with
      | .ok s => PipelineOptions.ofJson s
      | .error f => .error (.config ("options are not UTF-8: " ++ f.message))
    read.mapError fun e => c.display ++ ": " ++ e.display

/-- The artifact of an owned call, or its report. -/
def ownedResult (code : Nat) (input options : HostBuffer UInt8) : Except String Artifact := do
  let c ← (Conversion.ofCode code).mapError Error.display
  let o ← ownedOptions c options
  let bs ← input.read.mapError fun e => c.display ++ ": " ++ e.display
  match Pipeline.run tools o c (.bytes bs) with
  | .ok x => .ok x.artifact
  | .error f => .error (f.renderWithInput (.bytes bs))
  | .abort _ => .error "owned conversion panicked"

/-- An owned call: a buffer with the artifact, or one with the report. -/
def owned (code : Nat) (input options : HostBuffer UInt8) : Except OwnedBuffer OwnedBuffer :=
  match ownedResult tools code input options with
  | .ok a => .ok (.ofArtifact a)
  | .error t => .error (.ofReport t)

end Boundary

end ShaderConvert
