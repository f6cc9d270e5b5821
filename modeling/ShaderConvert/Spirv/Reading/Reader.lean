import ShaderConvert.Spirv.Code
import ShaderConvert.Spirv.Opcode
import ShaderConvert.Spirv.Reading.Fault
import ShaderConvert.Toolchain

/-
The state of reading a binary module.

Words are taken one after another; an instruction says how many are its own (`Head`). Names and
decorations come before what they belong to and wait for it. Types, constants, variables and
functions are found by their ids; the module that is read refers to them by their places.
-/
namespace ShaderConvert.Spirv.Reading

open Ir

/-- What is known by id; the latest entry counts. -/
abbrev Table (α : Type) := List (Nat × α)

/-- What is said about an id before it is declared. -/
structure Decorations where
  name : Option String := none
  builtIn : Option Nat := none
  location : Option Nat := none
  group : Option Nat := none
  binding : Option Nat := none
  isStorageBuffer : Bool := false
  offset : Option Nat := none
  arrayStride : Option Nat := none
  matrixStride : Option Nat := none
  invariant : Bool := false
  interpolation : Option Interpolation := none
  sampling : Option Sampling := none
  nonReadable : Bool := false
  nonWritable : Bool := false
  rowMajor : Bool := false
  overrideId : Option Nat := none
deriving Repr, Inhabited

namespace Decorations

def access (d : Decorations) : StorageAccess := ⟨!d.nonReadable, !d.nonWritable⟩

def resource (d : Decorations) : Option ResourceBinding := do
  return ⟨← d.group, ← d.binding⟩

end Decorations

structure KnownType where
  type : TypeId
  /-- The id of the type that it is made of. -/
  base : Option Nat
deriving Repr, Inhabited

structure KnownMember where
  typeId : Nat
  rowMajor : Bool
deriving Repr, Inhabited

structure KnownFunctionType where
  result : Nat
  parameters : List Nat
deriving Repr, Inhabited

inductive ConstantPlace where
  | constant (index : Nat)
  | override (index : Nat)
deriving Repr, Inhabited

def ConstantPlace.expression : ConstantPlace → Expression
  | constant i => .constant i
  | override i => .override i

structure KnownConstant where
  place : ConstantPlace
  typeId : Nat
deriving Repr, Inhabited

/-- What a variable is for. -/
inductive Role where
  | plain
  | input (argument : FunctionArgument)
  | output (result : FunctionResult)
deriving Repr, Inhabited

structure KnownVariable where
  role : Role
  index : Nat
  typeId : Nat
deriving Repr, Inhabited

/-- An entry point whose function has not been read yet. -/
structure Announced where
  name : String
  stage : ShaderStage
  earlyDepthTest : Bool := false
  workgroupSize : Nat × Nat × Nat := (0, 0, 0)
  /-- The ids of the variables that it lists. -/
  interface : List Nat
deriving Repr, Inhabited

/-- Which function calls which, by id, in order of appearance. -/
structure CallGraph where
  nodes : List Nat := []
  edges : List (Nat × Nat) := []
deriving Repr, Inhabited

namespace CallGraph

def addNode (g : CallGraph) (n : Nat) : CallGraph :=
  if g.nodes.contains n then g else { g with nodes := g.nodes ++ [n] }

def addEdge (g : CallGraph) (caller callee : Nat) : CallGraph :=
  let g := (g.addNode caller).addNode callee
  if g.edges.contains (caller, callee) then g
  else { g with edges := g.edges ++ [(caller, callee)] }

end CallGraph

structure Reader where
  settings : ReadSettings
  words : List Word
  /-- How many bytes have been read. -/
  offset : Nat := 0
  part : Part := .empty
  decorations : Table Decorations := []
  memberDecorations : List ((Nat × Nat) × Decorations) := []
  /-- The imported set of arithmetic instructions. -/
  extendedSet : Option Nat := none
  voidType : Option Nat := none
  types : Table KnownType := []
  members : List ((TypeId × Nat) × KnownMember) := []
  /-- Structs that are storage buffers, with what may be done with them. -/
  storageBuffers : List (TypeId × StorageAccess) := []
  functionTypes : Table KnownFunctionType := []
  constants : Table KnownConstant := []
  globals : Table KnownVariable := []
  entryPoints : Table Announced := []
  functions : Table Nat := []
  /-- The ids of called functions; a call refers to its place here until all functions are read. -/
  calls : Array Nat := #[]
  graph : CallGraph := {}
  /-- Entry points whose functions have been read, with the ids of these. -/
  ready : List (Announced × Nat) := []
  /-- The built-in values that are reached through a struct. -/
  reached : List BuiltIn := []
  module : Module := {}

abbrev Read := StateT Reader (Except Fault)

/-- The first word of an instruction: its number, how many words it has, and where it stands. -/
structure Head where
  number : Nat
  count : Nat
  place : Nat
deriving Repr, Inhabited

/-- Every instruction has a name, whichever version brought it. -/
def newestMinor : Nat := 6

namespace Head

def name (h : Head) : String := ((Opcode.byNumber? newestMinor h.number).map (·.name)).getD ""

def span (h : Head) : Span := ⟨h.place, h.place + 4 * h.count⟩

def expect (h : Head) (count : Nat) : Read Unit :=
  if h.count = count then return () else throw (.operandCount h.name h.count)

def expectAtLeast (h : Head) (count : Nat) : Read Unit :=
  if count ≤ h.count then return () else throw (.operandCount h.name h.count)

end Head

def next : Read Nat := do
  let r ← get
  match r.words with
  | [] => throw .incomplete
  | w :: ws =>
    set { r with words := ws, offset := r.offset + 4 }
    return w.toNat

/-- The next words, as many as there are. -/
def takeUpTo (n : Nat) : Read (List Nat) := do
  let r ← get
  set { r with words := r.words.drop n }
  return (r.words.take n).map (·.toNat)

/-- The next words, all of them. -/
def nextMany : Nat → Read (List Nat)
  | 0 => return []
  | n + 1 => do
    let w ← next
    return w :: (← nextMany n)

def nextHead : Read Head := do
  let place := (← get).offset
  let w ← next
  let number := w % 65536
  let count := w / 65536
  if count = 0 then throw .wordCount
  if (Opcode.byNumber? newestMinor number).isNone then throw (.unknownInstruction number)
  return ⟨number, count, place⟩

/-- The bytes of a text of at most so many words, and how many of these are left. -/
def textBytes : Nat → Read (List UInt8 × Nat)
  | 0 => throw .string
  | n + 1 => do
    let w ← next
    let bytes := (Words.bytesOf w.toUInt32).takeWhile (· ≠ 0)
    if bytes.length < 4 then return (bytes, n)
    let (more, left) ← textBytes n
    return (bytes ++ more, left)

def nextText (count : Nat) : Read (String × Nat) := do
  let (bytes, left) ← textBytes count
  match Utf8.decode bytes with
  | .ok s => return (s, left)
  | .error _ => throw .string

/-- A text that takes all of its words. -/
def wholeText (count : Nat) : Read String := do
  let (s, left) ← nextText count
  if left ≠ 0 then throw .operand
  return s

/-- Parts do not come back. -/
def enter (part : Part) (h : Head) : Read Unit := do
  let r ← get
  if part.rank < r.part.rank then throw (.unsupportedInstruction r.part h.name)
  set { r with part }

/-- An instruction that does not belong here. -/
def refuse {α : Type} (h : Head) : Read α := do
  throw (.unsupportedInstruction (← get).part h.name)

def find {α : Type} (t : Table α) (id : Nat) : Read α :=
  match t.lookup id with
  | some x => return x
  | none => throw (.invalid .id id)

def findType (id : Nat) : Read KnownType := do find (← get).types id

def findConstant (id : Nat) : Read KnownConstant := do find (← get).constants id

def shapeOf (t : TypeId) : Read Shape := do return (← get).module.shapeOf t

/-- What was said about an id, which is then forgotten. -/
def takeDecorations (id : Nat) : Read Decorations :=
  modifyGet fun r =>
    ((r.decorations.lookup id).getD {},
      { r with decorations := r.decorations.filter (·.1 ≠ id) })

def takeMemberDecorations (id member : Nat) : Read Decorations :=
  modifyGet fun r =>
    ((r.memberDecorations.lookup (id, member)).getD {},
      { r with memberDecorations := r.memberDecorations.filter (·.1 ≠ (id, member)) })

def setDecorations (id : Nat) (d : Decorations) : Read Unit :=
  modify fun r => { r with decorations := (id, d) :: r.decorations.filter (·.1 ≠ id) }

def setMemberDecorations (id member : Nat) (d : Decorations) : Read Unit :=
  modify fun r =>
    { r with
      memberDecorations := ((id, member), d) :: r.memberDecorations.filter (·.1 ≠ (id, member)) }

/-- The place of a type; a type that is new is added. -/
def internType (t : ShaderType) (place : Span) : Read TypeId :=
  modifyGet fun r =>
    let (m, i) := r.module.internType t place
    (i, { r with module := m })

def knowType (id : Nat) (t : ShaderType) (base : Option Nat) (h : Head) : Read TypeId := do
  let type ← internType t h.span
  modify fun r => { r with types := (id, ⟨type, base⟩) :: r.types }
  return type

/-- An expression outside of functions. -/
def pushGlobalExpression (e : Expression) (place : Span) : Read ExprId :=
  modifyGet fun r =>
    (r.module.globalExpressions.size,
      { r with module :=
        { r.module with globalExpressions := r.module.globalExpressions.push e place } })

/-- The sizes of all types so far. -/
def layouts : Read (Array Layout) := do
  match (← get).module.layouts with
  | .ok ls => return ls
  | .error (t, f) => throw (.noLayout t f)

end ShaderConvert.Spirv.Reading
