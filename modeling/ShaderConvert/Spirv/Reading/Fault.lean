import ShaderConvert.Ir.Layout

/-
Why a binary module cannot be read.
-/
namespace ShaderConvert.Spirv.Reading

/-- The parts of a module, in the order in which they stand. -/
inductive Part where
  | empty
  | capability
  | extension
  | memoryModel
  | entryPoint
  | executionMode
  | source
  | name
  | decoration
  | type
  | function
deriving Repr, DecidableEq, Inhabited

namespace Part

def rank : Part → Nat
  | empty => 0
  | capability => 1
  | extension => 2
  | memoryModel => 3
  | entryPoint => 4
  | executionMode => 5
  | source => 6
  | name => 7
  | decoration => 8
  | type => 9
  | function => 10

def title : Part → String
  | empty => "Empty"
  | capability => "Capability"
  | extension => "Extension"
  | memoryModel => "MemoryModel"
  | entryPoint => "EntryPoint"
  | executionMode => "ExecutionMode"
  | source => "Source"
  | name => "Name"
  | decoration => "Annotation"
  | type => "Type"
  | function => "Function"

end Part

/-- What an operand that cannot be used was meant to be. -/
inductive Subject where
  | executionModel
  | executionMode
  | storageClass
  | imageDimension
  | imageFormat
  | builtIn
  | extendedSet
  | extendedInstruction
  | id
  | decoration
  | typeWidth
  | sign
  | innerType
  | vectorSize
  | accessType
  | accessIndex
  | arraySize
  | barrierScope
  | barrierSemantics
deriving Repr, DecidableEq, Inhabited

def Subject.title : Subject → String
  | executionModel => "execution model"
  | executionMode => "execution mode"
  | storageClass => "storage class"
  | imageDimension => "image dimension"
  | imageFormat => "image format"
  | builtIn => "builtin"
  | extendedSet => "extension instantiation set"
  | extendedInstruction => "extension instantiation"
  | id => "id"
  | decoration => "decoration"
  | typeWidth => "type width"
  | sign => "sign"
  | innerType => "inner type"
  | vectorSize => "vector size"
  | accessType => "access type"
  | accessIndex => "access index"
  | arraySize => "array size"
  | barrierScope => "barrier scope"
  | barrierSemantics => "barrier memory semantics"

/-- What the type of something does not fit. -/
inductive TypeSubject where
  | imageBase
  | image
  | conversion
deriving Repr, DecidableEq, Inhabited

def TypeSubject.title : TypeSubject → String
  | imageBase => "image base type"
  | image => "image"
  | conversion => "as type"

inductive Fault where
  | header
  | wordCount
  | unknownInstruction (number : Nat)
  | unknownCapability (value : Nat)
  | unsupportedInstruction (part : Part) (name : String)
  | unsupportedCapability (name : String)
  | unsupportedExtension (name : String)
  | unsupportedSet (name : String)
  | unsupportedType (type : Ir.TypeId)
  | unsupported (subject : Subject) (value : Nat)
  | invalid (subject : Subject) (value : Nat)
  | invalidType (subject : TypeSubject) (type : Ir.TypeId)
  | runtimeArraySpace
  | matrixStride (stride columns rows width : Nat)
  | parameter (name : String)
  | operandCount (name : String) (count : Nat)
  | operand
  | access (expression : String)
  | globalVariable (expression : String)
  | functionResult (id : Nat)
  | functionArgument (id : Nat)
  | missingLocation
  | string
  | incomplete
  | callCycle (id : Nat)
  | overrideId (value : Nat)
  /-- The reader gives up. -/
  | abort (text : String)
deriving Repr, DecidableEq, Inhabited

namespace Fault

def message : Fault → String
  | header => "invalid header"
  | wordCount => "invalid word count"
  | unknownInstruction n => s!"unknown instruction {n}"
  | unknownCapability n => s!"unknown capability %{n}"
  | unsupportedInstruction p n => "unsupported instruction " ++ n ++ " at " ++ p.title
  | unsupportedCapability n => "unsupported capability " ++ n
  | unsupportedExtension n => "unsupported extension " ++ n
  | unsupportedSet n => "unsupported extension set " ++ n
  | unsupportedType t => s!"unsupported type [{t}]"
  | unsupported s n => "unsupported " ++ s.title ++ s!" %{n}"
  | invalid s n => "invalid " ++ s.title ++ s!" %{n}"
  | invalidType s t => "invalid " ++ s.title ++ s!" [{t}]"
  | runtimeArraySpace =>
    "Naga supports OpTypeRuntimeArray in the StorageBuffer storage class only"
  | matrixStride stride columns rows width =>
    s!"unsupported matrix stride {stride} for a {columns}x{rows} matrix with scalar width={width}"
  | parameter n => "invalid parameter " ++ n
  | operandCount n k => s!"invalid operand count {k} for " ++ n
  | operand => "invalid operand"
  | access e => "invalid access " ++ e
  | globalVariable e => "invalid global var " ++ e
  | functionResult n => s!"wrong function result type %{n}"
  | functionArgument n => s!"wrong function argument type %{n}"
  | missingLocation => "missing decoration Location"
  | string => "bad string"
  | incomplete => "incomplete data"
  | callCycle n => s!"recursive function call %{n}"
  | overrideId n =>
    s!"naga only supports specialization constant IDs up to 65535 but was given {n}"
  | abort t => t

/-- A value was expected where there is none. -/
def noValue : Fault := abort "called `Option::unwrap()` on a `None` value"

/-- A table has no such entry. -/
def noEntry : Fault := abort "no entry found for key"

/-- A list is shorter than it has to be. -/
def shortList (length : Nat) : Fault :=
  abort s!"index out of bounds: the len is {length} but the index is {length}"

def noLayout (type : Ir.TypeId) (f : Ir.LayoutFault) : Fault :=
  abort (s!"called `Result::unwrap()` on an `Err` value: LayoutError \x7b ty: [{type}], inner: "
    ++ f.debugName ++ " \x7d")

end Fault

end ShaderConvert.Spirv.Reading
