import ShaderConvert.Text.Utf8
import ShaderConvert.Text.Lines
import ShaderConvert.Error

/-
Diagnostics: what a stage has to say about its input.

A record has a severity, a message and perhaps a place in the source. `Diagnostics.render` writes
one line per record; `Diagnostics.renderWithSource` also quotes the line of each place and marks
it with carets. Columns and lengths count bytes.
-/
namespace ShaderConvert

inductive Severity where
  | note
  | warning
  | error
deriving Repr, DecidableEq, Inhabited

namespace Severity

def name : Severity → String
  | note => "note"
  | warning => "warning"
  | error => "error"

/-- Notes are below warnings, warnings below errors. -/
def rank : Severity → Nat
  | note => 0
  | warning => 1
  | error => 2

def max (a b : Severity) : Severity := if a.rank < b.rank then b else a

end Severity

/-- A place in a source text: line and column from one, offset and length in bytes. -/
structure Location where
  line : UInt32
  column : UInt32
  offset : UInt32
  length : UInt32
deriving Repr, DecidableEq, Inhabited

def Location.display (l : Location) : String := s!"{l.line}:{l.column}"

/-- A byte range of a source text. The empty range at zero means that no place is known. -/
structure Span where
  start : Nat
  stop : Nat
deriving Repr, DecidableEq, Inhabited

namespace Span

def undefined : Span := ⟨0, 0⟩

def isDefined (s : Span) : Bool := s ≠ undefined

/-- The smallest range around two; an unknown one adds nothing. -/
def cover (a b : Span) : Span :=
  if !a.isDefined then b
  else if !b.isDefined then a
  else ⟨min a.start b.start, max a.stop b.stop⟩

/-- The bytes since the last line feed, and how many line feeds there are. -/
def lineAndColumn (bytes : List UInt8) : Nat × Nat :=
  bytes.foldl (fun p (b : UInt8) => if b = 10 then (p.1 + 1, 1) else (p.1, p.2 + 1)) (1, 1)

/-- Where a range stands: the line after the line feeds before it, the column after the bytes since
the last of them. -/
def locate (s : Span) (source : String) : Location :=
  let (line, column) := lineAndColumn ((Utf8.encode source).take s.start)
  ⟨line.toUInt32, column.toUInt32, s.start.toUInt32, (s.stop - s.start).toUInt32⟩

end Span

/-- One record. -/
structure Diagnostic where
  severity : Severity
  message : String
  location : Option Location := none
deriving Repr, DecidableEq, Inhabited

namespace Diagnostic

def display (d : Diagnostic) : String :=
  match d.location with
  | some l => d.severity.name ++ " at " ++ l.display ++ ": " ++ d.message
  | none => d.severity.name ++ ": " ++ d.message

end Diagnostic

/-- Records in the order in which they arose. -/
structure Diagnostics where
  records : List Diagnostic := []
deriving Repr, DecidableEq, Inhabited

namespace Diagnostics

def push (ds : Diagnostics) (d : Diagnostic) : Diagnostics := ⟨ds.records ++ [d]⟩

/-- A single error record without a place. -/
def ofMessage (message : String) : Diagnostics := ⟨[⟨.error, message, none⟩]⟩

/-- The one record of an error: its bare text. -/
def ofError (e : Error) : Diagnostics := ofMessage e.bare

def size (ds : Diagnostics) : Nat := ds.records.length

def count (s : Severity) (ds : Diagnostics) : Nat :=
  (ds.records.filter (·.severity = s)).length

def errorCount (ds : Diagnostics) : Nat := ds.count .error

def warningCount (ds : Diagnostics) : Nat := ds.count .warning

def hasErrors (ds : Diagnostics) : Bool := 0 < ds.errorCount

def firstError? (ds : Diagnostics) : Option Diagnostic :=
  ds.records.find? (·.severity = .error)

def maxSeverity? (ds : Diagnostics) : Option Severity :=
  ds.records.foldl (fun m d => some ((m.getD d.severity).max d.severity)) none

/-- One line per record. -/
def render (ds : Diagnostics) : String :=
  String.join (ds.records.map fun d => d.display ++ "\n")

/-- The rendering without blanks at its end. -/
def display (ds : Diagnostics) : String := String.ofList (Text.trimEnd ds.render.toList)

/-- The quoted line of a place and the carets under it, if the source has that line. -/
def quote (lines : List String) (l : Location) : String :=
  match lines[l.line.toNat - 1]? with
  | none => ""
  | some line =>
    let gutter := Text.padLeft 4 (toString l.line) ++ " | "
    gutter ++ line ++ "\n"
      ++ Text.repeatChar ' ' (gutter.length + (l.column.toNat - 1))
      ++ Text.repeatChar '^' (Nat.max l.length.toNat 1) ++ "\n"

/-- One line per record, and after each record with a place the line it is in. -/
def renderWithSource (ds : Diagnostics) (source : String) : String :=
  let lines := Text.lines source
  String.join (ds.records.map fun d =>
    d.display ++ "\n" ++ match d.location with
      | none => ""
      | some l => quote lines l)

end Diagnostics

/-- What a failing stage hands back. -/
structure StageFailure where
  error : Error
  diagnostics : Diagnostics
deriving Repr, DecidableEq, Inhabited

def StageFailure.ofError (e : Error) : StageFailure := ⟨e, .ofError e⟩

end ShaderConvert
