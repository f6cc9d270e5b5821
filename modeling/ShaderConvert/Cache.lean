import ShaderConvert.Artifact

/-
The result cache: one slot for each kind of output, and the report of the last call if it failed.

Publishing replaces the slot of the artifact's kind and forgets the report; a failure records a
report and leaves the slots alone.
-/
namespace ShaderConvert

/-- What a slot holds. Text is stored with a zero byte behind it. -/
inductive SlotValue where
  | text (stored : List UInt8)
  | words (ws : List Word)
deriving Repr, DecidableEq, Inhabited

namespace SlotValue

def ofArtifact : Artifact → SlotValue
  | .assembly t => text (Utf8.encode t ++ [0])
  | .source t => text (Utf8.encode t ++ [0])
  | .binary ws => words ws

/-- Bytes before the terminator, or words. -/
def size : SlotValue → Nat
  | text bs => bs.length - 1
  | words ws => ws.length

/-- What was published. -/
def toArtifact (k : OutputKind) : SlotValue → Artifact
  | words ws => .binary ws
  | text bs =>
    let t := Utf8.decodeLossy bs.dropLast
    match k with
    | .assembly => .assembly t
    | _ => .source t

end SlotValue

structure ResultCache where
  slot : OutputKind → Option SlotValue
  report : Option (List UInt8)

namespace ResultCache

def empty : ResultCache := ⟨fun _ => none, none⟩

def publish (c : ResultCache) (a : Artifact) : ResultCache where
  slot k := if k = a.kind then some (.ofArtifact a) else c.slot k
  report := none

/-- The slot of a kind, if anything was published there. -/
def read (c : ResultCache) (k : OutputKind) : Option SlotValue := c.slot k

/-- A copy of what a slot holds. -/
def snapshot (c : ResultCache) (k : OutputKind) : Option Artifact :=
  (c.slot k).map (·.toArtifact k)

/-- The number of words of the binary slot. -/
def binarySize (c : ResultCache) : Nat :=
  match c.slot .binary with
  | some v => v.size
  | none => 0

/-- Record the report of a failed call, without its zero bytes. -/
def recordFailure (c : ResultCache) (text : String) : ResultCache :=
  { c with report := some (reportBytes text ++ [0]) }

/-- The report of the last call, if it failed. -/
def lastReport (c : ResultCache) : Option String :=
  c.report.map fun bs => Utf8.decodeLossy bs.dropLast

def clear (_ : ResultCache) : ResultCache := empty

end ResultCache

end ShaderConvert
