import ShaderConvert.Text.Lines

/-
The interface of a shader module: its entry points and its bindings, both sorted, so that two
modules have the same summary exactly if they offer the same interface.
-/
namespace ShaderConvert

inductive ShaderStage where
  | vertex
  | fragment
  | compute
deriving Repr, DecidableEq, Inhabited

namespace ShaderStage

def name : ShaderStage → String
  | vertex => "vertex"
  | fragment => "fragment"
  | compute => "compute"

def title : ShaderStage → String
  | vertex => "Vertex"
  | fragment => "Fragment"
  | compute => "Compute"

end ShaderStage

/-- What may be done with storage. -/
structure StorageAccess where
  load : Bool := false
  store : Bool := false
deriving Repr, DecidableEq, Inhabited

/-- Where the value of a variable lives. -/
inductive AddressSpace where
  | function
  | privateSpace
  | workGroup
  | uniform
  | storage (access : StorageAccess)
  | handle
  | pushConstant
deriving Repr, DecidableEq, Inhabited

/-- The name of a space in a summary. -/
def AddressSpace.summaryName : AddressSpace → String
  | .uniform => "uniform"
  | .storage _ => "storage"
  | .handle => "handle"
  | .pushConstant => "push_constant"
  | .workGroup => "workgroup"
  | .privateSpace => "private"
  | .function => "function"

structure EntryPointSummary where
  stage : String
  name : String
  workgroupSize : Nat × Nat × Nat
deriving Repr, DecidableEq, Inhabited

structure BindingSummary where
  group : Nat
  binding : Nat
  space : String
deriving Repr, DecidableEq, Inhabited

/-- The lexicographic order of sizes. -/
def sizeLe (a b : Nat × Nat × Nat) : Bool :=
  if a.1 ≠ b.1 then a.1 < b.1
  else if a.2.1 ≠ b.2.1 then a.2.1 < b.2.1
  else a.2.2 ≤ b.2.2

/-- Entry points by stage, then name, then size. -/
def EntryPointSummary.le (a b : EntryPointSummary) : Bool :=
  if a.stage ≠ b.stage then decide (a.stage < b.stage)
  else if a.name ≠ b.name then decide (a.name < b.name)
  else sizeLe a.workgroupSize b.workgroupSize

/-- Bindings by group, then number, then space. -/
def BindingSummary.le (a b : BindingSummary) : Bool :=
  if a.group ≠ b.group then a.group < b.group
  else if a.binding ≠ b.binding then a.binding < b.binding
  else decide (a.space ≤ b.space)

/-- What a summary looks at: the entry points of a module and the spaces and bindings of its global
variables. -/
structure ModuleInterface where
  entryPoints : List (ShaderStage × String × (Nat × Nat × Nat))
  globals : List (AddressSpace × Option (Nat × Nat))
deriving Repr, DecidableEq, Inhabited

structure ModuleSummary where
  entryPoints : List EntryPointSummary
  bindings : List BindingSummary
deriving Repr, DecidableEq, Inhabited

namespace ModuleSummary

def ofInterface (m : ModuleInterface) : ModuleSummary where
  entryPoints :=
    (m.entryPoints.map fun (s, n, w) => (⟨s.name, n, w⟩ : EntryPointSummary)).mergeSort
      EntryPointSummary.le
  bindings :=
    (m.globals.filterMap fun (s, b) =>
      b.map fun (g, n) => (⟨g, n, s.summaryName⟩ : BindingSummary)).mergeSort BindingSummary.le

/-- The first entry point of a name. -/
def entryPoint? (s : ModuleSummary) (name : String) : Option EntryPointSummary :=
  s.entryPoints.find? (·.name = name)

def display (s : ModuleSummary) : String :=
  String.join (s.entryPoints.map fun e =>
    let (x, y, z) := e.workgroupSize
    "entry " ++ e.stage ++ " " ++ e.name ++ s!" [{x}, {y}, {z}]\n")
  ++ String.join (s.bindings.map fun b =>
    s!"binding @group({b.group}) @binding({b.binding}) " ++ b.space ++ "\n")

end ModuleSummary

end ShaderConvert
