import ShaderConvert.Wgsl.Fault
import ShaderConvert.Wgsl.Keyword
import ShaderConvert.Wgsl.Ast

/-
The state of a parser, and how it takes tokens.

A token that is taken because it was asked for (`skip`) does not count as the end of what was read;
one that is simply taken (`next`) does. Ranges end where the last counted token ends
(`placeFrom`).
-/
namespace ShaderConvert.Wgsl.Parser

open Ast

structure State where
  rest : List Char
  /-- The bytes before the rest. -/
  offset : Nat := 0
  lastEnd : Nat := 0
  /-- Locals in scope, innermost scope first. -/
  scopes : List (List (String × Nat × Span)) := []
  nextLocal : Nat := 0
  /-- Names that are used and not local, in order of first use. -/
  uses : Array Ident := #[]
deriving Inhabited

abbrev P := StateT State (Except Fault)

/-- How many steps a loop over the rest can take. -/
def stepsLeft : P Nat := do return (← get).rest.length + 1

/-- Runs a step until it gives no new state. -/
def iterate {σ : Type} (step : σ → P (σ × Bool)) : Nat → σ → P σ
  | 0, s => return s
  | n + 1, s => do
    let (s', again) ← step s
    if again then iterate step n s' else return s'

/-- Repeats a step as long as it says so. -/
def repeatWhile {σ : Type} (start : σ) (step : σ → P (σ × Bool)) : P σ := do
  iterate step (← stepsLeft) start

/-- The first token that is no blank or comment: its start and end, and the rest. -/
def scan (generic : Bool) : Nat → Nat → List Char → Token × Nat × Nat × List Char
  | 0, offset, cs => (.finish, offset, offset, cs)
  | n + 1, offset, cs =>
    let (t, rest) := Token.next generic cs
    let stop := offset + (Utf8.size cs - Utf8.size rest)
    match t with
    | .trivia => scan generic n stop rest
    | _ => (t, offset, stop, rest)

def scanHere (generic : Bool) : P (Token × Nat × Nat × List Char) := do
  let s ← get
  return scan generic (s.rest.length + 1) s.offset s.rest

def nextWith (generic : Bool) : P (Token × Span) := do
  let (t, start, stop, rest) ← scanHere generic
  modify fun s => { s with rest := rest, offset := stop, lastEnd := stop }
  return (t, ⟨start, stop⟩)

/-- Takes a token. -/
def next : P (Token × Span) := nextWith false

def peek : P (Token × Span) := do
  let (t, start, stop, _) ← scanHere false
  return (t, ⟨start, stop⟩)

/-- Takes a token if it is the one asked for. -/
def skip (t : Token) : P Bool := do
  let (t', _, stop, rest) ← scanHere false
  if t'.isSame t then
    modify fun s => { s with rest := rest, offset := stop }
    return true
  else return false

/-- The place of the next token. -/
def startOffset : P Nat := do
  let s ← get
  let rec go : Nat → Nat → List Char → Nat × List Char
    | 0, offset, cs => (offset, cs)
    | n + 1, offset, cs =>
      match Token.next false cs with
      | (.trivia, rest) => go n (offset + (Utf8.size cs - Utf8.size rest)) rest
      | _ => (offset, cs)
  let (offset, rest) := go (s.rest.length + 1) s.offset s.rest
  set { s with rest := rest, offset := offset }
  return offset

def placeFrom (start : Nat) : P Span := do return ⟨start, (← get).lastEnd⟩

/-- Runs a parser and gives the range it read. -/
def withPlace {α : Type} (p : P α) : P (α × Span) := do
  let start ← startOffset
  let a ← p
  return (a, ← placeFrom start)

def unexpected {α : Type} (place : Span) (e : Expectation) : P α := throw (.unexpected place e)

def expectPlace (t : Token) : P Span := do
  let (t', p) ← next
  if t'.isSame t then return p else unexpected p (.token t)

def expect (t : Token) : P Unit := do discard (expectPlace t)

def expectAngle (c : Char) : P Unit := do
  let (t, p) ← nextWith true
  if t.isSame (.bracket c) then return () else unexpected p (.token (.bracket c))

/-- A word that may be reserved. -/
def nextWord : P Ident := do
  match ← next with
  | (.word w, p) =>
    if w = "_" then throw (.underscore p)
    else if Text.startsWith "__" w.toList then throw (.reservedStart p)
    else return ⟨w, p⟩
  | (_, p) => unexpected p .identifier

/-- A word that something can be named with. -/
def nextIdent : P Ident := do
  let w ← nextWord
  if isReserved w.name then throw (.reservedKeyword w.place) else return w

/-- Notes a name that is not local. -/
def use (i : Ident) : P Unit :=
  modify fun s =>
    if s.uses.any (·.name = i.name) then s else { s with uses := s.uses.push i }

def pushScope : P Unit := modify fun s => { s with scopes := [] :: s.scopes }

def popScope : P Unit := modify fun s => { s with scopes := s.scopes.drop 1 }

def lookup (name : String) : P (Option Nat) := do
  return (← get).scopes.findSome? fun scope =>
    (scope.find? (·.1 = name)).map (·.2.1)

/-- Brings a local into the innermost scope. -/
def declareLocal (i : Ident) : P Nat := do
  let s ← get
  match s.scopes with
  | scope :: outer =>
    match scope.find? (·.1 = i.name) with
    | some (_, _, previous) => throw (.redefinition previous i.place)
    | none =>
      set { s with
        scopes := ((i.name, s.nextLocal, i.place) :: scope) :: outer, nextLocal := s.nextLocal + 1 }
      return s.nextLocal
  | [] => return s.nextLocal

end ShaderConvert.Wgsl.Parser
