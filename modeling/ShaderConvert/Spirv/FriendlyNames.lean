import ShaderConvert.Spirv.Instruction

/-
Names for the ids of a module that tell what they stand for.

A name from the module itself comes first, then the name of a built-in variable, then one made from
what defines the id: `v3uint`, `_ptr_Uniform_float`, `uint_4`. Names consist of letters, digits and
underscores, and no two ids share one: a number is added to a name that is taken.
-/
namespace ShaderConvert.Spirv

/-- The names given so far. -/
structure FriendlyNames where
  names : List (Nat × String) := []
deriving Repr, Inhabited

namespace FriendlyNames

/-- The name of an id; its number if it has none. -/
def get (t : FriendlyNames) (id : Nat) : String := (t.names.lookup id).getD (toString id)

def isTaken (t : FriendlyNames) (name : String) : Bool := t.names.any (·.2 = name)

def isNameCharacter (c : Char) : Bool := c = '_' || c.isAlphanum

/-- A text with an underscore for every byte that may not stand in a name. -/
def sanitize (s : String) : String :=
  if s = "" then "_"
  else String.ofList (s.toList.flatMap fun c =>
    if isNameCharacter c then [c] else List.replicate c.utf8Size '_')

/-- The first free name among `base_0`, `base_1`, …; as many tries as there are names suffice. -/
def freeName (t : FriendlyNames) (base : String) : Nat → Nat → String
  | 0, n => base ++ "_" ++ toString n
  | fuel + 1, n =>
    let name := base ++ "_" ++ toString n
    if t.isTaken name then freeName t base fuel (n + 1) else name

/-- Give an id a name unless it has one. -/
def save (t : FriendlyNames) (id : Nat) (suggestion : String) : FriendlyNames :=
  if (t.names.lookup id).isSome then t
  else
    let base := sanitize suggestion
    let name := if t.isTaken base then t.freeName base (t.names.length + 1) 0 else base
    ⟨(id, name) :: t.names⟩

/-- Built-in variables that have a name of their own in the shading language, and those that are
called as they are. -/
def builtInName? (value : Nat) : Option String :=
  match value with
  | 5 => some "gl_VertexID"
  | 6 => some "gl_InstanceID"
  | 7 => some "gl_PrimitiveID"
  | 8 => some "gl_InvocationID"
  | 18 => some "gl_SampleID"
  | 24 => some "gl_NumWorkGroups"
  | 25 => some "gl_WorkGroupSize"
  | 26 => some "gl_WorkGroupID"
  | 27 => some "gl_LocalInvocationID"
  | 28 => some "gl_GlobalInvocationID"
  | 4416 => some "SubgroupEqMaskKHR"
  | 4417 => some "SubgroupGeMaskKHR"
  | 4418 => some "SubgroupGtMaskKHR"
  | 4419 => some "SubgroupLeMaskKHR"
  | 4420 => some "SubgroupLtMaskKHR"
  | 4425 => some "gl_BaseInstance"
  | n =>
    if n > 43 then none
    else
      (Family.builtIn.byValue? n).map fun e =>
        if 30 ≤ n ∧ n ≤ 41 then e.name else "gl_" ++ e.name

def intName (width : Nat) (isSigned : Bool) : String :=
  let root := match width with
    | 8 => "char"
    | 16 => "short"
    | 32 => "int"
    | 64 => "long"
    | n => (if isSigned then "i" else "") ++ toString n
  if isSigned then root else "u" ++ root

def floatName (width : Nat) : String :=
  match width with
  | 16 => "half"
  | 32 => "float"
  | 64 => "double"
  | n => "fp" ++ toString n

/-- The text of the number of a constant with `n` for a minus sign. -/
def constantText (i : Instruction) : String :=
  match i.operands[2]? with
  | some o =>
    match o.number with
    | some t => String.ofList ((Numeral.write t o.words).toList.map fun c => if c = '-' then 'n' else c)
    | none => ""
  | none => ""

def familyName (f : Family) (value : Nat) : String :=
  ((f.byValue? value).map (·.name)).getD ("StorageClass" ++ toString value)

/-- The names after one more instruction. -/
def learn (t : FriendlyNames) (i : Instruction) : FriendlyNames :=
  let id := i.resultId
  let word := i.word
  match i.opcode.number with
  | 5 => t.save (word 1) (i.text 1)
  | 71 =>
    if word 2 = 11 then
      match builtInName? (word 3) with
      | some n => t.save (word 1) n
      | none => t
    else t
  | 19 => t.save id "void"
  | 20 => t.save id "bool"
  | 21 => t.save id (intName (word 2) (word 3 ≠ 0))
  | 22 => t.save id (floatName (word 2))
  | 23 => t.save id ("v" ++ toString (word 3) ++ t.get (word 2))
  | 24 => t.save id ("mat" ++ toString (word 3) ++ t.get (word 2))
  | 28 => t.save id ("_arr_" ++ t.get (word 2) ++ "_" ++ t.get (word 3))
  | 29 => t.save id ("_runtimearr_" ++ t.get (word 2))
  | 30 => t.save id ("_struct_" ++ toString id)
  | 31 => t.save id ("Opaque_" ++ sanitize (i.text 1))
  | 32 => t.save id ("_ptr_" ++ familyName .storageClass (word 2) ++ "_" ++ t.get (word 3))
  | 34 => t.save id "Event"
  | 35 => t.save id "DeviceEvent"
  | 36 => t.save id "ReserveId"
  | 37 => t.save id "Queue"
  | 38 => t.save id ("Pipe" ++ familyName .accessQualifier (word 2))
  | 322 => t.save id "PipeStorage"
  | 327 => t.save id "NamedBarrier"
  | 41 => t.save id "true"
  | 42 => t.save id "false"
  | 43 => t.save id (t.get i.typeId ++ "_" ++ constantText i)
  | _ => if id = 0 then t else t.save id (toString id)

def ofInstructions (is : List Instruction) : FriendlyNames := is.foldl learn {}

end FriendlyNames

end ShaderConvert.Spirv
