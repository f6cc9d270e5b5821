import ShaderConvert.Text.Utf8

/-
A place in assembly text.

Blanks, line ends and comments separate words; a comment runs from a semicolon to the end of its
line. Inside quotes a word goes on over all of these. A zero character ends the text. Columns and
offsets count bytes; a line end inside quotes does not begin a new line of the count.
-/
namespace ShaderConvert.Spirv.Assembly

structure Cursor where
  rest : List Char
  line : Nat := 0
  column : Nat := 0
  index : Nat := 0
deriving Repr, DecidableEq, Inhabited

namespace Cursor

def ofText (s : String) : Cursor := { rest := s.toList }

/-- Is no text left? -/
def atEnd (c : Cursor) : Bool :=
  match c.rest with
  | [] => true
  | ch :: _ => ch = '\x00'

def isSpace (ch : Char) : Bool := ch = ' ' || ch = '\t' || ch = '\n' || ch = '\r'

/-- The cursor behind one character. -/
def past (c : Cursor) (ch : Char) (rest : List Char) : Cursor :=
  if ch = '\n' then ⟨rest, c.line + 1, 0, c.index + 1⟩
  else ⟨rest, c.line, c.column + ch.utf8Size, c.index + ch.utf8Size⟩

/-- Skip what separates words; `inComment` tells whether a comment has begun. -/
def skipFrom (inComment : Bool) (c : Cursor) : List Char → Cursor
  | [] => { c with rest := [] }
  | ch :: r =>
    if ch = '\x00' then { c with rest := ch :: r }
    else if inComment then skipFrom (ch ≠ '\n') (c.past ch r) r
    else if ch = ';' then skipFrom true (c.past ch r) r
    else if isSpace ch then skipFrom false (c.past ch r) r
    else { c with rest := ch :: r }

def skip (c : Cursor) : Cursor := skipFrom false c c.rest

/-- The characters of the word at the front and what follows it. -/
def wordFrom (quoting escaping : Bool) : List Char → List Char × List Char
  | [] => ([], [])
  | ch :: r =>
    let go (quoting escaping : Bool) : List Char × List Char :=
      let (w, rest) := wordFrom quoting escaping r
      (ch :: w, rest)
    if ch = '\\' then go quoting (!escaping)
    else if ch = '"' then go (if escaping then quoting else !quoting) false
    else if ch = '\x00' then ([], ch :: r)
    else if (isSpace ch || ch = ';') && !escaping && !quoting then ([], ch :: r)
    else go quoting false

/-- The word at the front and the cursor behind it. -/
def word (c : Cursor) : List Char × Cursor :=
  let (w, rest) := wordFrom false false c.rest
  let n := Utf8.size w
  (w, ⟨rest, c.line, c.column + n, c.index + n⟩)

/-- Does an instruction name begin here? -/
def startsOpcode (c : Cursor) : Bool :=
  match c.rest with
  | 'O' :: 'p' :: ch :: _ => 'A' ≤ ch && ch ≤ 'Z'
  | _ => false

/-- Does an instruction begin here: a name, or an id, an equals sign and a name? -/
def startsInstruction (c : Cursor) : Bool :=
  if c.startsOpcode then true
  else
    let (w, c) := c.word
    if w.head? ≠ some '%' then false
    else
      let c := c.skip
      let (eq, c) := c.word
      eq = ['='] && c.skip.startsOpcode

end Cursor

end ShaderConvert.Spirv.Assembly
