import ShaderConvert.Text.Lines

/-
Writing JSON text: no blanks, members in the order they are given.
-/
namespace ShaderConvert.Json

/-- How a character stands inside quotes: the quote, the backslash and the control characters are
escaped, all others stand for themselves. -/
def escapeChar (c : Char) : String :=
  if c = '"' then "\\\""
  else if c = '\\' then "\\\\"
  else if c = '\x08' then "\\b"
  else if c = '\x0c' then "\\f"
  else if c = '\n' then "\\n"
  else if c = '\r' then "\\r"
  else if c = '\t' then "\\t"
  else if c.toNat < 0x20 then "\\u" ++ Text.hex 4 c.toNat
  else String.ofList [c]

def writeString (s : String) : String :=
  "\"" ++ String.join (s.toList.map escapeChar) ++ "\""

def writeBool (b : Bool) : String := if b then "true" else "false"

def writeList (items : List String) : String := "[" ++ Text.joinWith "," items ++ "]"

/-- A member from its name and its written value. -/
def writeMember (m : String × String) : String := writeString m.1 ++ ":" ++ m.2

/-- An object from member names and written values. -/
def writeObject (members : List (String × String)) : String :=
  "\x7b" ++ Text.joinWith "," (members.map writeMember) ++ "\x7d"

end ShaderConvert.Json
