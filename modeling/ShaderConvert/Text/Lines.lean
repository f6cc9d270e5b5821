/-
Blank characters and lines of a text.

* `trim` drops blanks at both ends, `trimEnd` at the end.
* `lines` cuts a text after every line feed; a line loses its feed and one carriage return before
  it, and a text that ends in a line feed has no empty last line.
-/
namespace ShaderConvert.Text

/-- The characters with the property White_Space. -/
def isBlank (c : Char) : Bool :=
  let n := c.toNat
  (0x09 ≤ n && n ≤ 0x0D) || n == 0x20 || n == 0x85 || n == 0xA0 || n == 0x1680
    || (0x2000 ≤ n && n ≤ 0x200A) || n == 0x2028 || n == 0x2029 || n == 0x202F || n == 0x205F
    || n == 0x3000

def trimStart (cs : List Char) : List Char := cs.dropWhile isBlank

def trimEnd (cs : List Char) : List Char := (cs.reverse.dropWhile isBlank).reverse

def trim (cs : List Char) : List Char := trimEnd (trimStart cs)

/-- A line without the carriage return that stood before its line feed. -/
def dropReturn (line : List Char) : List Char :=
  if line.getLast? = some '\r' then line.dropLast else line

/-- The lines of a text; `line` holds what has been read of the present one, last character
first. -/
def linesFrom (line : List Char) : List Char → List (List Char)
  | [] => if line.isEmpty then [] else [line.reverse]
  | c :: r =>
    if c = '\n' then dropReturn line.reverse :: linesFrom [] r else linesFrom (c :: line) r

def lines (s : String) : List String := (linesFrom [] s.toList).map String.ofList

/-- The text repeated. -/
def repeatChar (c : Char) (n : Nat) : String := String.ofList (List.replicate n c)

/-- A text filled up with blanks on the left. -/
def padLeft (width : Nat) (s : String) : String := repeatChar ' ' (width - s.length) ++ s

/-- Does the text begin with `p`? -/
def startsWith (p : String) (cs : List Char) : Bool := p.toList.isPrefixOf cs

/-- Texts joined with a separator. -/
def joinWith (sep : String) : List String → String
  | [] => ""
  | [s] => s
  | s :: r => s ++ sep ++ joinWith sep r

/-- Hexadecimal digits, lower case, at least `width` of them. -/
def hex (width n : Nat) : String :=
  let digits := String.ofList (Nat.toDigits 16 n)
  repeatChar '0' (width - digits.length) ++ digits

end ShaderConvert.Text
