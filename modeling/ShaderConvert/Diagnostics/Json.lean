import ShaderConvert.Diagnostics
import ShaderConvert.Json.Document
import ShaderConvert.Json.Writer
import ShaderConvert.Number.Power

/-
Diagnostics as JSON text. A place may be absent; all other members must be there.
-/
namespace ShaderConvert

open Json

namespace Severity

def all : List Severity := [note, warning, error]

def toJson (s : Severity) : String := writeString s.name

def reader : Reader Severity := Reader.variant (all.map fun s => .plain s.name s)

end Severity

namespace Location

def toJson (l : Location) : String :=
  writeObject
    [("line", toString l.line), ("column", toString l.column), ("offset", toString l.offset),
      ("length", toString l.length)]

def number : Reader UInt32 := do return (← Reader.natural (twoTo 32) "u32").toUInt32

def members : List (Reader.Member Location) :=
  [{ name := "line", read := fun l => do return { l with line := ← number }, required := true },
   { name := "column", read := fun l => do return { l with column := ← number }, required := true },
   { name := "offset", read := fun l => do return { l with offset := ← number }, required := true },
   { name := "length", read := fun l => do return { l with length := ← number }, required := true }]

def reader : Reader Location := Reader.record "struct SourceLocation" members true ⟨0, 0, 0, 0⟩

end Location

namespace Diagnostic

def toJson (d : Diagnostic) : String :=
  writeObject
    [("severity", d.severity.toJson), ("message", writeString d.message),
      ("location", match d.location with
        | some l => l.toJson
        | none => "null")]

def members : List (Reader.Member Diagnostic) :=
  [{ name := "severity", read := fun d => do return { d with severity := ← Severity.reader }
     required := true },
   { name := "message", read := fun d => do return { d with message := ← Reader.string }
     required := true },
   { name := "location"
     read := fun d => do return { d with location := ← Reader.optional Location.reader } }]

def reader : Reader Diagnostic := Reader.record "struct Diagnostic" members true ⟨.note, "", none⟩

end Diagnostic

namespace Diagnostics

def toJson (ds : Diagnostics) : String :=
  writeObject [("records", writeList (ds.records.map Diagnostic.toJson))]

def members : List (Reader.Member Diagnostics) :=
  [{ name := "records", read := fun _ => do return ⟨← Reader.list Diagnostic.reader⟩
     required := true }]

def reader : Reader Diagnostics := Reader.record "struct Diagnostics" members true {}

/-- Diagnostics from their text. -/
def ofJson (text : String) : Except Error Diagnostics := (Reader.run reader text).mapError .config

end Diagnostics

/-- Severity from its text. -/
def Severity.ofJson (text : String) : Except Error Severity :=
  (Reader.run Severity.reader text).mapError .config

end ShaderConvert
