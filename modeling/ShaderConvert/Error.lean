/-
Errors of a conversion.

An error has a kind and a bare text; what a caller is shown is the text behind the words of its
kind (`Error.display`).
-/
namespace ShaderConvert

/-- What an error is about. -/
inductive ErrorKind where
  | codec
  | parse
  | emit
  | invalidInput
  | config
deriving Repr, DecidableEq, Inhabited

/-- An error with its text, or a pair of formats that no conversion joins. -/
inductive Error where
  | codec (text : String)
  | parse (text : String)
  | emit (text : String)
  | invalidInput (text : String)
  | config (text : String)
  | unsupportedConversion (source target : String)
deriving Repr, DecidableEq, Inhabited

namespace Error

def kind : Error → ErrorKind
  | codec _ => .codec
  | parse _ => .parse
  | emit _ => .emit
  | invalidInput _ => .invalidInput
  | config _ => .config
  | unsupportedConversion _ _ => .config

/-- The error as a caller sees it. -/
def display : Error → String
  | codec t => "Codec error: " ++ t
  | parse t => "Parse error: " ++ t
  | emit t => "Emit error: " ++ t
  | invalidInput t => "Invalid input: " ++ t
  | config t => "Configuration error: " ++ t
  | unsupportedConversion s t => "Unsupported conversion: " ++ s ++ " to " ++ t

/-- The text without the words of its kind. -/
def bare : Error → String
  | codec t => t
  | parse t => t
  | emit t => t
  | invalidInput t => t
  | config t => t
  | unsupportedConversion s t => display (unsupportedConversion s t)

end Error

end ShaderConvert
