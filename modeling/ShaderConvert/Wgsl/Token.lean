import ShaderConvert.Text.Word
import ShaderConvert.Wgsl.Numeral

/-
Tokens of source texts.

`Token.next` takes one token off a text. Blanks and comments are tokens, too, which the parser skips.
Inside angle brackets each of them stands alone, so that `>>` can close two.
-/
namespace ShaderConvert.Wgsl

inductive Token where
  | separator (c : Char)
  | bracket (c : Char)
  | atSign
  | number (value : Except NumeralFault Numeral)
  | word (text : String)
  | operation (c : Char)
  | logical (c : Char)
  | shift (c : Char)
  | assignment (c : Char)
  | increment
  | decrement
  | arrow
  | unknown (c : Char)
  | trivia
  | finish
deriving Inhabited

namespace Token

/-- Tokens that a parser asks for; a number is never one of them. -/
def isSame : Token → Token → Bool
  | separator a, separator b | bracket a, bracket b | operation a, operation b
  | logical a, logical b | shift a, shift b | assignment a, assignment b => a == b
  | word a, word b => a == b
  | atSign, atSign | increment, increment | decrement, decrement | arrow, arrow
  | finish, finish => true
  | _, _ => false

/-- What is said to have been expected. -/
def expectation : Token → String
  | separator c | bracket c => "'" ++ String.ofList [c] ++ "'"
  | atSign => "@"
  | number _ => "number"
  | word s => s
  | operation c => "operation ('" ++ String.ofList [c] ++ "')"
  | logical c => "logical operation ('" ++ String.ofList [c] ++ "')"
  | shift c => "bitshift ('" ++ String.ofList [c, c] ++ "')"
  | assignment c =>
    if c == '<' || c == '>' then "bitshift ('" ++ String.ofList [c, c, '='] ++ "')"
    else "operation ('" ++ String.ofList [c, '='] ++ "')"
  | increment => "increment operation"
  | decrement => "decrement operation"
  | arrow => "->"
  | unknown c => "unknown ('" ++ String.ofList [c] ++ "')"
  | trivia => "trivia"
  | finish => "end"

def isBlank (c : Char) : Bool :=
  let n := c.toNat
  (9 ≤ n && n ≤ 13) || n == 0x20 || n == 0x85 || n == 0x200e || n == 0x200f || n == 0x2028
    || n == 0x2029

/-- Line ends, which end a line comment. -/
def endsLine (c : Char) : Bool :=
  let n := c.toNat
  (10 ≤ n && n ≤ 13) || n == 0x85 || n == 0x2028 || n == 0x2029

/-- The text after a block comment that is open `depth` times; `none` if it is never closed. -/
def skipComment (depth : Nat) (previous : Option Char) : List Char → Option (List Char)
  | [] => none
  | c :: r =>
    if previous = some '*' ∧ c = '/' then
      if depth ≤ 1 then some r else skipComment (depth - 1) none r
    else if previous = some '/' ∧ c = '*' then skipComment (depth + 1) none r
    else skipComment depth (some c) r

def isWordStart (c : Char) : Bool := c == '_' || Text.Word.isStart c

/-- An operator that may be followed by an equals sign. -/
def withEquals (c : Char) (r : List Char) : Token × List Char :=
  match r with
  | '=' :: r => (assignment c, r)
  | _ => (operation c, r)

/-- A bracket `<` or `>`, or an operator that starts with it. -/
def angle (generic : Bool) (c : Char) (r : List Char) : Token × List Char :=
  if generic then (bracket c, r)
  else
    match r with
    | d :: r' =>
      if d == '=' then (logical c, r')
      else if d == c then
        match r' with
        | '=' :: r'' => (assignment c, r'')
        | _ => (shift c, r')
      else (bracket c, r)
    | [] => (bracket c, r)

/-- A word, a blank, or a character that begins nothing. -/
def other (c : Char) (cs : List Char) : Token × List Char :=
  if isBlank c then (trivia, cs.dropWhile isBlank)
  else if isWordStart c then
    (word (String.ofList (cs.takeWhile Text.Word.isContinue)), cs.dropWhile Text.Word.isContinue)
  else (unknown c, cs.drop 1)

/-- A comment, or an operator that starts with a slash. -/
def slash : List Char → Token × List Char
  | '/' :: r => (trivia, (r.dropWhile (!endsLine ·)).drop 1)
  | '*' :: r =>
    match skipComment 1 none r with
    | some r' => (trivia, r')
    | none => (finish, [])
  | '=' :: r => (assignment '/', r)
  | r => (operation '/', r)

/-- The first token of a text, and the rest. -/
def next (generic : Bool) : List Char → Token × List Char
  | [] => (finish, [])
  | cs@(c :: r) =>
    match c with
    | ':' | ';' | ',' => (separator c, r)
    | '.' =>
      match r with
      | d :: _ =>
        if d.isDigit then
          let (n, r) := Numeral.take cs
          (number n, r)
        else (separator c, r)
      | [] => (separator c, r)
    | '@' => (atSign, r)
    | '(' | ')' | '\x7b' | '\x7d' | '[' | ']' => (bracket c, r)
    | '<' | '>' => angle generic c r
    | '/' => slash r
    | '-' =>
      match r with
      | '>' :: r => (arrow, r)
      | '-' :: r => (decrement, r)
      | _ => withEquals c r
    | '+' =>
      match r with
      | '+' :: r => (increment, r)
      | _ => withEquals c r
    | '*' | '%' | '^' => withEquals c r
    | '~' => (operation c, r)
    | '=' | '!' =>
      match r with
      | '=' :: r => (logical c, r)
      | _ => (operation c, r)
    | '&' | '|' =>
      match r with
      | d :: r' => if d == c then (logical c, r') else withEquals c r
      | [] => (operation c, r)
    | _ =>
      if c.isDigit then
        let (n, r) := Numeral.take cs
        (number n, r)
      else other c cs

end Token

end ShaderConvert.Wgsl
