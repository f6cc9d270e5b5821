import ShaderConvert.Ir.Layout

/-
Which types are valid, and what can be done with values of each.

A type has flags, and for buffers a layout that meets the rules or a reason why none does
(`TypeInfo`). `TypeInfo.ofTypes` goes through the types of a module in order.
-/
namespace ShaderConvert.Ir

/-- The name of a space in messages. -/
def spaceTitle : AddressSpace → String
  | .function => "Function"
  | .privateSpace => "Private"
  | .workGroup => "WorkGroup"
  | .uniform => "Uniform"
  | .storage a =>
    let names := (if a.load then ["LOAD"] else []) ++ (if a.store then ["STORE"] else [])
    "Storage \x7b access: StorageAccess(" ++
      (if names.isEmpty then "0x0" else Text.joinWith " | " names) ++ ") \x7d"
  | .handle => "Handle"
  | .pushConstant => "PushConstant"

/-- What can be done with values of a type. -/
inductive TypeFlag where
  | data
  | sized
  | copy
  | ioShareable
  | hostShareable
  | argument
  | constructible
deriving Repr, DecidableEq, Inhabited

namespace TypeFlag

def all : List TypeFlag := [data, sized, copy, ioShareable, hostShareable, argument, constructible]

def title : TypeFlag → String
  | data => "DATA"
  | sized => "SIZED"
  | copy => "COPY"
  | ioShareable => "IO_SHAREABLE"
  | hostShareable => "HOST_SHAREABLE"
  | argument => "ARGUMENT"
  | constructible => "CONSTRUCTIBLE"

end TypeFlag

/-- A set of flags. -/
structure TypeFlags where
  flags : List TypeFlag := []
deriving Repr, Inhabited

namespace TypeFlags

def has (s : TypeFlags) (f : TypeFlag) : Bool := s.flags.contains f

def hasAll (s required : TypeFlags) : Bool := required.flags.all s.has

def inter (a b : TypeFlags) : TypeFlags := ⟨a.flags.filter b.has⟩

def erase (s : TypeFlags) (f : TypeFlag) : TypeFlags := ⟨s.flags.filter (· ≠ f)⟩

/-- The flags in messages. -/
def title (s : TypeFlags) : String :=
  let names := (TypeFlag.all.filter s.has).map TypeFlag.title
  "TypeFlags(" ++ (if names.isEmpty then "0x0" else Text.joinWith " | " names) ++ ")"

end TypeFlags

inductive TypeFault where
  | width (kind : ScalarKind) (width : Nat)
  | abstractWidth
  | matrixElement
  | pointerBase (base : TypeId)
  | pointerToUnsized (base : TypeId) (space : AddressSpace)
  | notData (type : TypeId)
  | arrayBase (base : TypeId)
  | dynamicMember (name : String) (type : TypeId)
  | memberOverlap (index offset : Nat)
  | memberOutOfBounds (index offset size span : Nat)
  | emptyStruct
deriving Repr, DecidableEq, Inhabited

def TypeFault.message : TypeFault → String
  | width k w => "The " ++ k.title ++ s!" scalar width {w} is not supported"
  | abstractWidth => "Abstract types may only appear in constant expressions"
  | matrixElement => "Matrix elements must always be floating-point types"
  | pointerBase b => s!"Invalid type for pointer target [{b}]"
  | pointerToUnsized b s =>
    s!"Unsized types like [{b}] must be in the `Storage` address space, not `" ++ spaceTitle s ++ "`"
  | notData t => s!"Expected data type, found [{t}]"
  | arrayBase b => s!"Base type [{b}] for the array is invalid"
  | dynamicMember n t => "Field '" ++ n ++ s!"' can't be dynamically-sized, has type [{t}]"
  | memberOverlap i o => s!"Structure member[{i}] at {o} overlaps the previous member"
  | memberOutOfBounds i o n s =>
    s!"Structure member[{i}] at {o} and size {n} crosses the structure boundary of size {s}"
  | emptyStruct => "Structure types must have at least one member"

/-- Why a type cannot be in a buffer. -/
inductive Disalignment where
  | arrayStride (stride alignment : Nat)
  | structSpan (span alignment : Nat)
  | memberOffset (index offset alignment : Nat)
  | memberAfterStruct (index offset expected : Nat)
  | notHostShareable
deriving Repr, DecidableEq, Inhabited

def Disalignment.message : Disalignment → String
  | arrayStride s a => s!"The array stride {s} is not a multiple of the required alignment {a}"
  | structSpan s a => s!"The struct span {s}, is not a multiple of the required alignment {a}"
  | memberOffset i o a =>
    s!"The struct member[{i}] offset {o} is not a multiple of the required alignment {a}"
  | memberAfterStruct i o e => s!"The struct member[{i}] offset {o} must be at least {e}"
  | notHostShareable => "The type is not host-shareable"

/-- The alignment of a type in a buffer, or the type that spoils it. -/
abbrev BufferLayout := Except (TypeId × Disalignment) Nat

structure TypeInfo where
  flags : TypeFlags
  uniformLayout : BufferLayout
  storageLayout : BufferLayout

instance : Inhabited TypeInfo := ⟨⟨{}, .ok 1, .ok 1⟩⟩

namespace TypeInfo

/-- The least alignment of arrays and structs in uniform buffers. -/
def leastUniformAlignment : Nat := 16

def plain (flags : List TypeFlag) (alignment : Nat) : TypeInfo :=
  ⟨⟨flags⟩, .ok alignment, .ok alignment⟩

def checkWidth (s : Scalar) : Except TypeFault Unit :=
  match s.kind with
  | .abstractInt | .abstractFloat => .error .abstractWidth
  | .bool => if s.width = 1 then .ok () else .error (.width s.kind s.width)
  | k => if s.width = 4 ∨ s.width = 8 then .ok () else .error (.width k s.width)

def ofNumber (s : Scalar) (alignment : Nat) : Except TypeFault TypeInfo := do
  checkWidth s
  let shareable : List TypeFlag := if s.kind.isNumeric then [.ioShareable, .hostShareable] else []
  return plain ([.data, .sized, .copy, .argument, .constructible] ++ shareable) alignment

/-- What holds for a pointer: only some can be arguments. -/
def ofPointer (space : AddressSpace) : TypeInfo :=
  let argument : List TypeFlag := match space with
    | .function | .privateSpace => [.argument]
    | _ => []
  plain ([.sized, .copy] ++ argument) 1

def aligned (alignment offset : Nat) : Bool := offset % alignment == 0

def ofArray (known : Array TypeInfo) (layouts : Array Layout) (self base : TypeId)
    (size : ArraySize) (stride : Nat) : Except TypeFault TypeInfo := do
  let element := known[base]?.getD default
  if !element.flags.hasAll ⟨[.data, .sized]⟩ then .error (.arrayBase base)
  else
    let general := (layouts[base]?.getD default).alignment
    let strided (least : Nat) (l : BufferLayout) : BufferLayout := do
      let a := max (← l) (max general least)
      if aligned a stride then .ok a else .error (self, .arrayStride stride a)
    let mask : List TypeFlag := match size with
      | .constant _ => [.data, .sized, .copy, .hostShareable, .argument, .constructible]
      | .dynamic => [.data, .hostShareable]
    return ⟨element.flags.inter ⟨mask⟩,
      strided leastUniformAlignment element.uniformLayout, strided 1 element.storageLayout⟩

/-- The alignment with one more member. -/
def withMember (self : TypeId) (index offset : Nat) (sofar member : BufferLayout) :
    BufferLayout := do
  let a ← sofar
  let b ← member
  if aligned b offset then .ok (max a b) else .error (self, .memberOffset index offset b)

/-- A struct whose members so far are known, where the next may start, and the span and offset of
a member that is a struct itself and comes just before. -/
structure StructState where
  info : TypeInfo
  nextOffset : Nat := 0
  before : Option (Nat × Nat) := none

def addMember (types : Arena ShaderType) (known : Array TypeInfo) (self : TypeId)
    (last span : Nat) (s : StructState) (m : StructMember) (index : Nat) :
    Except TypeFault StructState := do
  let member := known[m.type]?.getD default
  let shape := (types.get m.type).shape
  if !member.flags.has .data then .error (.notData m.type)
  else
    let spoil (l : BufferLayout) : BufferLayout :=
      if member.flags.has .hostShareable then l
      else l.bind fun _ => .error (m.type, .notHostShareable)
    let overlaps := m.offset < s.nextOffset
    if overlaps ∧ m.offset ≠ 0 then .error (.memberOverlap index m.offset)
    else
      let flags := s.info.flags.inter member.flags
      let flags := if overlaps then flags.erase .hostShareable else flags
      let size := shape.size
      let stop := m.offset + size
      if stop > span then .error (.memberOutOfBounds index m.offset size span)
      else
        let uniform := withMember self index m.offset (spoil s.info.uniformLayout)
          member.uniformLayout
        let storage := withMember self index m.offset (spoil s.info.storageLayout)
          member.storageLayout
        let uniform := match s.before with
          | some (innerSpan, innerOffset) =>
            let least := roundUp leastUniformAlignment innerSpan
            if m.offset - innerOffset < least then
              .error (self, .memberAfterStruct index m.offset (innerOffset + least))
            else uniform
          | none => uniform
        let isArray := match shape with
          | .array _ _ _ => true
          | _ => false
        if !member.flags.has .sized && !(isArray && index == last) then
          .error (.dynamicMember (m.name.getD "") m.type)
        else
          let before := match shape with
            | .struct _ inner => some (inner, m.offset)
            | _ => none
          return ⟨⟨flags, uniform, storage⟩, stop, before⟩

def ofStruct (types : Arena ShaderType) (known : Array TypeInfo) (alignment : Nat) (self : TypeId)
    (members : List StructMember) (span : Nat) : Except TypeFault TypeInfo := do
  if members.isEmpty then .error .emptyStruct
  else
    let start : TypeInfo := ⟨⟨TypeFlag.all⟩, .ok leastUniformAlignment, .ok 1⟩
    let s ← members.zipIdx.foldlM (fun s (m, i) =>
      addMember types known self (members.length - 1) span s m i) ⟨start, 0, none⟩
    let spanned (l : BufferLayout) : BufferLayout :=
      if aligned alignment span then l else .error (self, .structSpan span alignment)
    return { s.info with
      uniformLayout := spanned s.info.uniformLayout
      storageLayout := spanned s.info.storageLayout }

def ofShape (types : Arena ShaderType) (layouts : Array Layout) (known : Array TypeInfo)
    (self : TypeId) : Shape → Except TypeFault TypeInfo
  | .scalar s => ofNumber s s.width
  | .vector n s => ofNumber s (n.alignment * s.width)
  | .matrix _ rows s => do
    if s.kind ≠ .float then .error .matrixElement
    else
      checkWidth s
      return plain [.data, .sized, .copy, .hostShareable, .argument, .constructible]
        (rows.alignment * s.width)
  | .pointer base space =>
    let target := known[base]?.getD default
    let isStorage := match space with
      | .storage _ => true
      | _ => false
    if !target.flags.has .data then .error (.pointerBase base)
    else if !target.flags.has .sized && !isStorage then .error (.pointerToUnsized base space)
    else .ok (ofPointer space)
  | .valuePointer _ s space => do
    checkWidth s
    return ofPointer space
  | .array base size stride => ofArray known layouts self base size stride
  | .struct members span =>
    ofStruct types known (layouts[self]?.getD default).alignment self members span
  | .image _ _ _ | .sampler _ => .ok (plain [.argument] 1)

/-- What can be done with each type, or the first type that is invalid and why. -/
def ofTypes (types : Arena ShaderType) (layouts : Array Layout) :
    Except (TypeId × TypeFault) (Array TypeInfo) :=
  types.entries.foldlM (fun known (i, t) =>
    match ofShape types layouts known i t.shape with
    | .ok info => .ok (known.push info)
    | .error f => .error (i, f)) #[]

end TypeInfo

end ShaderConvert.Ir
