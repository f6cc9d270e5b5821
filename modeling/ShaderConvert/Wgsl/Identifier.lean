import ShaderConvert.Wgsl.Keyword

/-
New identifiers.

`Identifiers.fresh` makes an identifier of any label: what the language does not allow in a name is
left out (`cleanLabel`), a reserved word and a label that ends with a digit get an underscore, and a
label that was given before gets the next number. The underscore keeps a name with a number of its
own apart from the numbers that are handed out here.
-/
namespace ShaderConvert.Wgsl

/-- How often each label has been asked for again. -/
structure Identifiers where
  repeats : List (String × Nat) := []
deriving Repr, Inhabited

namespace Identifiers

def isNameChar (c : Char) : Bool := c.isAlphanum || c == '_'

/-- Neighbouring underscores as one. -/
def squeeze : List Char → List Char
  | [] => []
  | '_' :: r =>
    match squeeze r with
    | '_' :: s => '_' :: s
    | s => '_' :: s
  | c :: r => c :: squeeze r

def dropFinalUnderscores (cs : List Char) : List Char :=
  (cs.reverse.dropWhile (· == '_')).reverse

/-- The label of a thing whose label has nothing that a name can have. -/
def anonymous : String := "unnamed"

/-- The part of a label that a name can have: no digits at the start, no two underscores together,
none at the end. -/
def cleanLabel (label : String) : String :=
  let kept := (label.toList.dropWhile Char.isDigit).filter isNameChar
  let cs := dropFinalUnderscores (squeeze kept)
  if cs.isEmpty then anonymous else String.ofList cs

def endsWithDigit (s : String) : Bool := (s.toList.getLast?.map Char.isDigit).getD false

/-- An identifier that was not given before. -/
def fresh (label : String) : StateM Identifiers String := fun ids =>
  let base := cleanLabel label
  match ids.repeats.lookup base with
  | some n =>
    let others := ids.repeats.filter (·.1 ≠ base)
    (base ++ s!"_{n + 1}", ⟨(base, n + 1) :: others⟩)
  | none =>
    let name := if endsWithDigit base || isReserved base then base ++ "_" else base
    (name, ⟨(base, 0) :: ids.repeats⟩)

/-- An identifier for a name, or for a label that says what the thing is. -/
def freshOr (name : Option String) (label : String) : StateM Identifiers String :=
  fresh (name.getD label)

/-- Identifiers that only have to differ from each other. -/
def apart {α : Type} (names : StateM Identifiers α) : StateM Identifiers α := fun outer =>
  ((names {}).1, outer)

end Identifiers

end ShaderConvert.Wgsl
