import ShaderConvert.Ir.Module
import ShaderConvert.Wgsl.Identifier

/-
The names of everything in a module that a source text names.

Types come first, then entry points, functions, global variables and constants; of two things with
one name the earlier one keeps it. Members of a struct only differ from each other.
-/
namespace ShaderConvert.Wgsl.Writer

open Ir Identifiers

structure FunctionNames where
  name : String
  arguments : List String
  locals : List String
deriving Repr, Inhabited

structure Names where
  types : Array String
  members : Array (List String)
  entryPoints : Array FunctionNames
  functions : Array FunctionNames
  globals : Array String
  constants : Array String
deriving Repr, Inhabited

namespace Names

def membersOf : Shape → List StructMember
  | .struct ms _ => ms
  | _ => []

def ofType (t : ShaderType) : StateM Identifiers (String × List String) := do
  let name ← freshOr t.name "type"
  let members ← apart ((membersOf t.shape).mapM fun m => freshOr m.name "member")
  return (name, members)

def ofFunction (f : Function) (name : StateM Identifiers String) :
    StateM Identifiers FunctionNames := do
  let name ← name
  let arguments ← f.arguments.mapM fun a => freshOr a.name "param"
  let locals ← f.locals.toList.mapM fun v => freshOr v.name "local"
  return ⟨name, arguments, locals⟩

/-- The names of a module. Identifiers that are made later differ from them. -/
def ofModule (m : Module) : StateM Identifiers Names := do
  let types ← m.types.toList.mapM ofType
  let entryPoints ← m.entryPoints.mapM fun e => ofFunction e.function (fresh e.name)
  let functions ← m.functions.toList.mapM fun f => ofFunction f (freshOr f.name "function")
  let globals ← m.globals.toList.mapM fun g => freshOr g.name "global"
  let constants ← m.constants.toList.mapM fun c =>
    freshOr c.name ("const_" ++ ((types[c.type]?.map (·.1)).getD ""))
  return {
    types := (types.map (·.1)).toArray
    members := (types.map (·.2)).toArray
    entryPoints := entryPoints.toArray
    functions := functions.toArray
    globals := globals.toArray
    constants := constants.toArray }

end Names

end ShaderConvert.Wgsl.Writer
