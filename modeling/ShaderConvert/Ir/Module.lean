import ShaderConvert.Ir.Expression

/-
Shader modules.

Everything in a module is found by its place in a list, and each place knows where in the source it
comes from. `Module.internType` gives the place of a type, adding it if it is new.
-/
namespace ShaderConvert.Ir

/-- Items with the places in the source that they come from. -/
structure Arena (α : Type) where
  items : Array (α × Span) := #[]
deriving Repr, Inhabited

namespace Arena

variable {α : Type}

def empty : Arena α := ⟨#[]⟩

def size (a : Arena α) : Nat := a.items.size

def get? (a : Arena α) (i : Nat) : Option α := a.items[i]?.map (·.1)

def get [Inhabited α] (a : Arena α) (i : Nat) : α := (a.get? i).getD default

def span (a : Arena α) (i : Nat) : Span := (a.items[i]?.map (·.2)).getD .undefined

def push (a : Arena α) (x : α) (place : Span) : Arena α := ⟨a.items.push (x, place)⟩

def toList (a : Arena α) : List α := a.items.toList.map (·.1)

/-- The items with their places, in order. -/
def entries (a : Arena α) : List (Nat × α) :=
  a.items.toList.zipIdx.map fun ((x, _), i) => (i, x)

def modify (a : Arena α) (i : Nat) (f : α → α) : Arena α :=
  ⟨a.items.modify i fun (x, s) => (f x, s)⟩

/-- The first item that has a property. -/
def findIdx? (a : Arena α) (p : α → Bool) : Option Nat := a.items.findIdx? (p ·.1)

end Arena

/-- The components of a composite, with vectors inside a vector taken apart. -/
def flattenComponents (types : Arena ShaderType) (es : Arena Expression) (t : TypeId)
    (components : List ExprId) : List ExprId :=
  match (types.get t).shape with
  | .vector n _ =>
    let open_ (e : ExprId) : List ExprId :=
      match es.get e with
      | .compose _ inner => inner
      | _ => [e]
    let repeat_ (e : ExprId) : List ExprId :=
      match es.get e with
      | .splat k value => List.replicate k.count value
      | _ => [e]
    (((components.flatMap open_).flatMap open_).flatMap repeat_).take n.count
  | _ => components

structure ResourceBinding where
  group : Nat
  binding : Nat
deriving Repr, DecidableEq, Inhabited

structure Constant where
  name : Option String
  type : TypeId
  init : ExprId
deriving Repr, DecidableEq, Inhabited

/-- A constant that the pipeline may set. -/
structure Override where
  name : Option String
  id : Option Nat
  type : TypeId
  init : Option ExprId
deriving Repr, DecidableEq, Inhabited

structure GlobalVariable where
  name : Option String
  space : AddressSpace
  binding : Option ResourceBinding
  type : TypeId
  init : Option ExprId
deriving Repr, DecidableEq, Inhabited

structure LocalVariable where
  name : Option String
  type : TypeId
  init : Option ExprId
deriving Repr, DecidableEq, Inhabited

structure FunctionArgument where
  name : Option String
  type : TypeId
  binding : Option Binding
deriving Repr, DecidableEq, Inhabited

structure FunctionResult where
  type : TypeId
  binding : Option Binding
deriving Repr, DecidableEq, Inhabited

structure Function where
  name : Option String := none
  arguments : List FunctionArgument := []
  result : Option FunctionResult := none
  locals : Arena LocalVariable := .empty
  expressions : Arena Expression := .empty
  /-- The expressions that the source gives a name, in order. -/
  namedExpressions : List (ExprId × String) := []
  body : Block := .empty
deriving Inhabited

structure EntryPoint where
  name : String
  stage : ShaderStage
  earlyDepthTest : Bool := false
  workgroupSize : Nat × Nat × Nat
  function : Function
deriving Inhabited

structure Module where
  types : Arena ShaderType := .empty
  constants : Arena Constant := .empty
  overrides : Arena Override := .empty
  globals : Arena GlobalVariable := .empty
  /-- The expressions outside of functions; all can be computed before the program runs. -/
  globalExpressions : Arena Expression := .empty
  functions : Arena Function := .empty
  entryPoints : List EntryPoint := []
deriving Inhabited

namespace Module

def typeOf (m : Module) (t : TypeId) : ShaderType := m.types.get t

def shapeOf (m : Module) (t : TypeId) : Shape := (m.types.get t).shape

/-- The place of a type; a type that is new is added. -/
def internType (m : Module) (t : ShaderType) (place : Span) : Module × TypeId :=
  match m.types.findIdx? (· == t) with
  | some i => (m, i)
  | none => ({ m with types := m.types.push t place }, m.types.size)

/-- What a summary looks at. -/
def interface (m : Module) : ModuleInterface where
  entryPoints := m.entryPoints.map fun e => (e.stage, e.name, e.workgroupSize)
  globals := m.globals.toList.map fun g => (g.space, g.binding.map fun b => (b.group, b.binding))

end Module

end ShaderConvert.Ir
