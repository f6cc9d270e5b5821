import ShaderConvert.Json.Skip
import ShaderConvert.Json.Value

/-
Records and choices.

* `record` reads an object, or a list of its values in the order of their declaration;
* `variant` reads the name of a bare variant, or an object with a single member.
-/
namespace ShaderConvert.Json.Reader

/-- A member of a record: its name, how its value is read into the record, and whether it must be
there. -/
structure Member (σ : Type) where
  name : String
  read : σ → Reader σ
  required : Bool := false

/-- The members of an object in any order: unknown ones are passed over, a known one may come once.
`seen` lists those that came. -/
def members {σ : Type} (ms : List (Member σ)) (fuel : Nat) (first : Bool) (seen : List String)
    (s : σ) : Reader (σ × List String) :=
  match fuel with
  | 0 => pure (s, seen)
  | fuel + 1 => do
    if ← nextMember first then
      drop
      let key ← stringBody
      match ms.find? (·.name = key) with
      | none =>
        colon
        skip
        members ms fuel false seen s
      | some m =>
        if key ∈ seen then failUnplaced (.duplicateField key)
        else
          colon
          let s ← m.read s
          members ms fuel false (key :: seen) s
    else pure (s, seen)

/-- The members of a record written as a list, in the order of their declaration. Those that are
missing at the end keep the values they have, unless every member is required. -/
def positionalMembers {σ : Type} (expected : String) (ms : List (Member σ)) (strict : Bool)
    (index : Nat) (s : σ) : Reader σ :=
  match ms with
  | [] => pure s
  | m :: r => do
    if ← nextElement (index = 0) then
      let s ← m.read s
      positionalMembers expected r strict (index + 1) s
    else if strict then failUnplaced (.wrongLength index expected)
    else pure s

/-- The members of a record written as an object; those that are required must be there. -/
def recordMembers {σ : Type} (ms : List (Member σ)) (start : σ) : Reader σ := do
  let (s, seen) ← fun cs => members ms (cs.length + 1) true [] start cs
  match ms.find? fun m => m.required && !seen.contains m.name with
  | some m => failUnplaced (.missingField m.name)
  | none => pure s

/-- A record as an object or as a list. `expected` names its type; `strict` records give no
defaults to missing elements of a list. -/
def record {σ : Type} (expected : String) (ms : List (Member σ)) (strict : Bool) (start : σ) :
    Reader σ := placed do
  match ← peekValue with
  | '[' =>
    drop
    let expected := s!"{expected} with {ms.length} elements"
    enclosed (positionalMembers expected ms strict 0 start) endList
  | '\x7b' =>
    drop
    enclosed (recordMembers ms start) endObject
  | _ => mismatch expected

/-- A variant of a choice: its name and, if it has any, how its contents are read. -/
structure Variant (α : Type) where
  name : String
  bare : Option α
  contents : Reader α

/-- A variant without contents. -/
def Variant.plain {α : Type} (name : String) (value : α) : Variant α :=
  ⟨name, some value, do unit; pure value⟩

/-- A variant name. -/
def variantName {α : Type} (vs : List (Variant α)) : Reader (Variant α) := do
  let name ← string
  match vs.find? (·.name = name) with
  | some v => pure v
  | none => fail (.unknownVariant name (vs.map (·.name)))

/-- A choice, written as the name of a bare variant or as an object with one member. -/
def variant {α : Type} (vs : List (Variant α)) : Reader α := do
  match ← peekPastSpace with
  | some '\x7b' =>
    drop
    let v ← variantName vs
    colon
    let a ← v.contents
    match ← peekPastSpace with
    | some '\x7d' =>
      drop
      pure a
    | some _ => fail .valueExpected
    | none => fail .endInObject
  | some '"' =>
    let v ← variantName vs
    match v.bare with
    | some a => pure a
    | none => failUnplaced (.wrongType .unitVariant "struct variant")
  | some _ => failNext .valueExpected
  | none => failNext .endInValue

end ShaderConvert.Json.Reader
