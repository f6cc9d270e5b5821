/-
What can be wrong with a JSON text, and the words for it.

A cause is either a fault of the grammar or a value that does not fit where it stands. The place is
kept apart: see `Json.Failure`.
-/
namespace ShaderConvert.Json

/-- A value found where another kind was wanted. Numbers carry the text they are shown with. -/
inductive Found where
  | null
  | boolean (b : Bool)
  | integer (text : String)
  | float (text : String)
  | string (s : String)
  | sequence
  | map
  | unitVariant
deriving Repr, DecidableEq

inductive Cause where
  | endInValue
  | endInObject
  | endInList
  | endInString
  | valueExpected
  | identExpected
  | colonExpected
  | commaOrBraceExpected
  | commaOrBracketExpected
  | keyNotString
  | trailingComma
  | trailingCharacters
  | badNumber
  | numberOutOfRange
  | badEscape
  | controlCharacter
  | loneSurrogate
  | hexEscapeCut
  | tooDeep
  | wrongType (found : Found) (expected : String)
  | wrongValue (found : Found) (expected : String)
  | unknownVariant (name : String) (known : List String)
  | wrongLength (n : Nat) (expected : String)
  | missingField (name : String)
  | duplicateField (name : String)
deriving Repr, DecidableEq

def ticked (s : String) : String := "`" ++ s ++ "`"

/-- Control characters and quotes of a text shown in a message. -/
def shownChar (c : Char) : String :=
  if c = '"' then "\\\""
  else if c = '\\' then "\\\\"
  else if c = '\n' then "\\n"
  else if c = '\r' then "\\r"
  else if c = '\t' then "\\t"
  else if c.toNat = 0 then "\\0"
  else if c.toNat < 0x20 ∨ c.toNat = 0x7F then
    "\\u\x7b" ++ String.ofList (Nat.toDigits 16 c.toNat) ++ "\x7d"
  else c.toString

def Found.describe : Found → String
  | .null => "null"
  | .boolean b => "boolean " ++ ticked (if b then "true" else "false")
  | .integer t => "integer " ++ ticked t
  | .float t => "floating point " ++ ticked t
  | .string s => "string \"" ++ String.join (s.toList.map shownChar) ++ "\""
  | .sequence => "sequence"
  | .map => "map"
  | .unitVariant => "unit variant"

/-- `a` alone, `a` or `b`, or one of a longer list. -/
def alternatives : List String → String
  | [] => "there are no variants"
  | [a] => ticked a
  | [a, b] => ticked a ++ " or " ++ ticked b
  | a :: r => "one of " ++ ticked a ++ String.join (r.map fun s => ", " ++ ticked s)

def Cause.describe : Cause → String
  | endInValue => "EOF while parsing a value"
  | endInObject => "EOF while parsing an object"
  | endInList => "EOF while parsing a list"
  | endInString => "EOF while parsing a string"
  | valueExpected => "expected value"
  | identExpected => "expected ident"
  | colonExpected => "expected `:`"
  | commaOrBraceExpected => "expected `,` or `\x7d`"
  | commaOrBracketExpected => "expected `,` or `]`"
  | keyNotString => "key must be a string"
  | trailingComma => "trailing comma"
  | trailingCharacters => "trailing characters"
  | badNumber => "invalid number"
  | numberOutOfRange => "number out of range"
  | badEscape => "invalid escape"
  | controlCharacter => "control character (\\u0000-\\u001F) found while parsing a string"
  | loneSurrogate => "lone leading surrogate in hex escape"
  | hexEscapeCut => "unexpected end of hex escape"
  | tooDeep => "recursion limit exceeded"
  | wrongType f e => "invalid type: " ++ f.describe ++ ", expected " ++ e
  | wrongValue f e => "invalid value: " ++ f.describe ++ ", expected " ++ e
  | unknownVariant n known => "unknown variant " ++ ticked n ++ ", expected " ++ alternatives known
  | wrongLength n e => s!"invalid length {n}, expected " ++ e
  | missingField n => "missing field " ++ ticked n
  | duplicateField n => "duplicate field " ++ ticked n

end ShaderConvert.Json
