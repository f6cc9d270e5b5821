import ShaderConvert.Ir.ConstantFault
import ShaderConvert.Toolchain
import ShaderConvert.Wgsl.Token

/-
What can be wrong with a source text.

A fault names places; its message and its labels quote what stands there, so both are functions of
the fault and the text (`Fault.error`).
-/
namespace ShaderConvert.Wgsl

/-- What a parser was looking for. -/
inductive Expectation where
  | token (t : Token)
  | identifier
  | expression
  | assignment
  | switchItem
  | workgroupSizeSeparator
  | globalItem
  | variableAccess
  | function
deriving Inhabited

def Expectation.text : Expectation → String
  | token t => t.expectation
  | identifier => "identifier"
  | expression => "expression"
  | assignment => "assignment or increment/decrement"
  | switchItem =>
    "switch item ('case' or 'default') or a closing curly bracket to signify the end of the switch "
      ++ "statement ('\x7d')"
  | workgroupSizeSeparator => "workgroup size separator (',') or a closing parenthesis"
  | globalItem =>
    "global item ('struct', 'const', 'var', 'alias', ';', 'fn') or the end of the file"
  | variableAccess => "variable access"
  | function => "function name"

/-- Why something cannot be assigned to. -/
inductive AssignmentTarget where
  | immutable (binding : Span)
  | swizzle
  | other
deriving Repr, DecidableEq, Inhabited

inductive Fault where
  | unexpected (place : Span) (expected : Expectation)
  | badNumber (place : Span) (fault : NumeralFault)
  | badMatrixScalar (place : Span) (scalar : String)
  | badTextureSample (place : Span) (scalar : String)
  | unexpectedComponents (place : Span)
  | unexpectedOperation (place : Span)
  | badAccessor (place : Span)
  | unknownIdentifier (place : Span) (name : String)
  | unknownScalarType (place : Span)
  | badIncrement (place : Span)
  | badTexture (place : Span)
  | badTypeCast (place : Span) (fromType toType : String)
  | typing (fault : Ir.TypingFault)
  | invalidForInitializer (place : Span)
  | invalidBreakIf (place : Span)
  | invalidComponent (place : Span) (index : Nat)
  | underscore (place : Span)
  | reservedStart (place : Span)
  | unknownAddressSpace (place : Span)
  | unknownAccess (place : Span)
  | repeatedAttribute (place : Span)
  | unknownAttribute (place : Span)
  | unknownBuiltIn (place : Span)
  | unknownConservativeDepth (place : Span)
  | unknownType (place : Span)
  | sizeTooLow (place : Span) (least : Nat)
  | alignTooLow (place : Span) (least : Nat)
  | alignNotPowerOfTwo (place : Span)
  | inconsistentBinding (place : Span)
  | notConstructible (place : Span)
  | notInferable (place : Span)
  | initializationMismatch (name : Span) (expected got : String)
  | missingTypeAndInit (name : Span)
  | missingAttribute (missing : String) (place : Span)
  | vectorComponentAddress (place : Span)
  | notPointer (place : Span)
  | notReference (what : String) (place : Span)
  | invalidAssignment (place : Span) (target : AssignmentTarget)
  | isPointer (what : String) (place : Span)
  | reservedKeyword (place : Span)
  | redefinition (previous current : Span)
  | recursive (name usage : Span)
  | cyclic (name : Span) (path : List (Span × Span))
  | invalidSwitchValue (unsigned : Bool) (place : Span)
  | calledEntryPoint (place : Span)
  | wrongArgumentCount (place : Span) (least stop : Nat) (found : Nat)
  | returnsVoid (place : Span)
  | notPositive (place : Span)
  | notConcreteInteger (place : Span)
  | negative (place : Span)
  | missingWorkgroupSize (place : Span)
  | constant (fault : Ir.ConstantFault) (place : Span)
  | autoConversion (goalPlace : Span) (goal : String) (place : Span) (type : String)
  | autoConversionLeaf (goalPlace : Span) (goal : String) (place : Span) (type : String)
  | concretization (place : Span) (type : String) (fault : Ir.ConstantFault)
  | nestedTooDeep (place : Span)
  | constantId (place : Span)
  | other
deriving Inhabited

/-- The bytes of a range as text. -/
def slice (source : String) (s : Span) : String :=
  Utf8.decodeLossy (((Utf8.encode source).drop s.start).take (s.stop - s.start))

namespace Fault

/-- Labels of a cycle: every declaration, and where it uses the next one. -/
def cycleLabels (source : String) : List (Span × Span) → List (Span × String)
  | [] => []
  | [(name, usage)] => [(name, ""), (usage, "ending the cycle")]
  | (name, usage) :: rest =>
    (name, "") :: (usage, "uses `" ++ slice source name ++ "`") :: cycleLabels source rest

/-- The message and the labels. -/
def error (source : String) : Fault → SourceError
  | unexpected p e =>
    ⟨"expected " ++ e.text ++ ", found '" ++ slice source p ++ "'", [(p, "expected " ++ e.text)]⟩
  | badNumber p f => ⟨f.message ++ ": `" ++ slice source p ++ "`", [(p, f.message)]⟩
  | badMatrixScalar p s =>
    ⟨"matrix scalar type must be floating-point, but found `" ++ s ++ "`",
      [(p, "must be floating-point (e.g. `f32`)")]⟩
  | badTextureSample p s =>
    ⟨"texture sample type must be one of f32, i32 or u32, but found " ++ s,
      [(p, "must be one of f32, i32 or u32")]⟩
  | unexpectedComponents p => ⟨"unexpected components", [(p, "unexpected components")]⟩
  | unexpectedOperation p =>
    ⟨"this operation is not supported in a const context", [(p, "operation not supported here")]⟩
  | badAccessor p => ⟨"invalid field accessor `" ++ slice source p ++ "`", [(p, "invalid accessor")]⟩
  | unknownIdentifier p name =>
    ⟨"no definition in scope for identifier: '" ++ name ++ "'", [(p, "unknown identifier")]⟩
  | unknownScalarType p =>
    ⟨"unknown scalar type: '" ++ slice source p ++ "'", [(p, "unknown scalar type")]⟩
  | badIncrement p =>
    ⟨"increment/decrement operation requires reference type to be one of i32 or u32",
      [(p, "must be a reference type of i32 or u32")]⟩
  | badTexture p =>
    ⟨"expected an image, but found '" ++ slice source p ++ "' which is not an image",
      [(p, "not an image")]⟩
  | badTypeCast p a b =>
    let text := "cannot cast a " ++ a ++ " to a " ++ b
    ⟨text, [(p, text)]⟩
  | typing f => ⟨f.message, []⟩
  | invalidForInitializer p =>
    ⟨"for(;;) initializer is not an assignment or a function call: '" ++ slice source p ++ "'",
      [(p, "not an assignment or function call")]⟩
  | invalidBreakIf p =>
    ⟨"A break if is only allowed in a continuing block", [(p, "not in a continuing block")]⟩
  | invalidComponent p i =>
    ⟨s!"invalid type for constructor component at index [{i}]", [(p, "invalid component type")]⟩
  | underscore p => ⟨"Identifier can't be '_'", [(p, "invalid identifier")]⟩
  | reservedStart p =>
    ⟨"Identifier starts with a reserved prefix: '" ++ slice source p ++ "'",
      [(p, "invalid identifier")]⟩
  | unknownAddressSpace p =>
    ⟨"unknown address space: '" ++ slice source p ++ "'", [(p, "unknown address space")]⟩
  | unknownAccess p => ⟨"unknown access: '" ++ slice source p ++ "'", [(p, "unknown access")]⟩
  | repeatedAttribute p =>
    ⟨"repeated attribute: '" ++ slice source p ++ "'", [(p, "repeated attribute")]⟩
  | unknownAttribute p =>
    ⟨"unknown attribute: '" ++ slice source p ++ "'", [(p, "unknown attribute")]⟩
  | unknownBuiltIn p => ⟨"unknown builtin: '" ++ slice source p ++ "'", [(p, "unknown builtin")]⟩
  | unknownConservativeDepth p =>
    ⟨"unknown conservative depth: '" ++ slice source p ++ "'", [(p, "unknown conservative depth")]⟩
  | unknownType p => ⟨"unknown type: '" ++ slice source p ++ "'", [(p, "unknown type")]⟩
  | sizeTooLow p n =>
    ⟨s!"struct member size must be at least {n}", [(p, s!"must be at least {n}")]⟩
  | alignTooLow p n =>
    ⟨s!"struct member alignment must be at least {n}", [(p, s!"must be at least {n}")]⟩
  | alignNotPowerOfTwo p =>
    ⟨"struct member alignment must be a power of 2", [(p, "must be a power of 2")]⟩
  | inconsistentBinding p =>
    ⟨"input/output binding is not consistent", [(p, "input/output binding is not consistent")]⟩
  | notConstructible p =>
    ⟨"type `" ++ slice source p ++ "` is not constructible", [(p, "type is not constructible")]⟩
  | notInferable p => ⟨"type can't be inferred", [(p, "type can't be inferred")]⟩
  | initializationMismatch p expected got =>
    let name := slice source p
    ⟨"the type of `" ++ name ++ "` is expected to be `" ++ expected ++ "`, but got `" ++ got ++ "`",
      [(p, "definition of `" ++ name ++ "`")]⟩
  | missingTypeAndInit p =>
    ⟨"declaration of `" ++ slice source p ++ "` needs a type specifier or initializer",
      [(p, "needs a type specifier or initializer")]⟩
  | missingAttribute a p =>
    ⟨"variable `" ++ slice source p ++ "` needs a '" ++ a ++ "' attribute",
      [(p, "definition of `" ++ slice source p ++ "`")]⟩
  | vectorComponentAddress p =>
    ⟨"cannot take the address of a vector component", [(p, "invalid operand for address-of")]⟩
  | notPointer p =>
    ⟨"the operand of the `*` operator must be a pointer", [(p, "expression is not a pointer")]⟩
  | notReference what p => ⟨what ++ " must be a reference", [(p, "expression is not a reference")]⟩
  | invalidAssignment p t =>
    let extra : List (Span × String) :=
      match t with
      | .immutable b => [(b, "this is an immutable binding")]
      | _ => []
    ⟨"invalid left-hand side of assignment", (p, "cannot assign to this expression") :: extra⟩
  | isPointer what p => ⟨what ++ " must not be a pointer", [(p, "expression is a pointer")]⟩
  | reservedKeyword p =>
    ⟨"name `" ++ slice source p ++ "` is a reserved keyword",
      [(p, "definition of `" ++ slice source p ++ "`")]⟩
  | redefinition previous current =>
    let text := "redefinition of `" ++ slice source current ++ "`"
    ⟨text, [(current, text), (previous, "previous definition of `" ++ slice source previous ++ "`")]⟩
  | recursive name usage =>
    ⟨"declaration of `" ++ slice source name ++ "` is recursive",
      [(name, ""), (usage, "uses itself here")]⟩
  | cyclic name path =>
    ⟨"declaration of `" ++ slice source name ++ "` is cyclic", cycleLabels source path⟩
  | invalidSwitchValue unsigned p =>
    ⟨"invalid switch value",
      [(p, if unsigned then "expected unsigned integer" else "expected signed integer")]⟩
  | calledEntryPoint p => ⟨"entry point cannot be called", [(p, "entry point cannot be called")]⟩
  | wrongArgumentCount p least stop found =>
    let expected := if stop - least < 2 then s!"{least}" else s!"{least}..{stop}"
    ⟨"wrong number of arguments: expected " ++ expected ++ s!", found {found}",
      [(p, "wrong number of arguments")]⟩
  | returnsVoid p => ⟨"function does not return any value", [(p, "")]⟩
  | notPositive p => ⟨"array element count must be positive (> 0)", [(p, "must be positive")]⟩
  | notConcreteInteger p =>
    ⟨"must be a const-expression that resolves to a concrete integer scalar (u32 or i32)",
      [(p, "must resolve to u32 or i32")]⟩
  | negative p => ⟨"must be non-negative (>= 0)", [(p, "must be non-negative")]⟩
  | missingWorkgroupSize p =>
    ⟨"workgroup size is missing on compute shader entry point",
      [(p, "must be paired with a @workgroup_size attribute")]⟩
  | constant f p => ⟨f.message, [(p, "see msg")]⟩
  | autoConversion goalPlace goal p type =>
    ⟨"automatic conversions cannot convert `" ++ type ++ "` to `" ++ goal ++ "`",
      [(goalPlace, "a value of type " ++ goal ++ " is required here"),
        (p, "this expression has type " ++ type)]⟩
  | autoConversionLeaf goalPlace goal p type =>
    ⟨"automatic conversions cannot convert elements of `" ++ type ++ "` to `" ++ goal ++ "`",
      [(goalPlace, "a value with elements of type " ++ goal ++ " is required here"),
        (p, "this expression has type " ++ type)]⟩
  | concretization p type f =>
    ⟨"failed to convert expression to a concrete type: " ++ f.message,
      [(p, "this expression has type " ++ type)]⟩
  | nestedTooDeep p => ⟨"brace nesting limit reached", [(p, "limit reached at this brace")]⟩
  | constantId p =>
    ⟨"pipeline constant ID must be between 0 and 65535 inclusive",
      [(p, "must be between 0 and 65535 inclusive")]⟩
  | other => ⟨"other error", []⟩

end Fault

end ShaderConvert.Wgsl
