import ShaderConvert.Wgsl.Fault
import ShaderConvert.Wgsl.Ast

/-
The order in which declarations are taken: what a declaration uses comes before it.

Declarations are visited in the order of the text, and before each what it uses, in the order of first
use. A declaration that comes back to itself has no place in such an order, and neither have two of
one name.
-/
namespace ShaderConvert.Wgsl.Order

open Ast

/-- The place of the declaration of a name. -/
def find? (ds : Array GlobalDecl) (name : String) : Option Nat :=
  ds.findIdx? (·.decl.name.name = name)

/-- Two declarations of one name: the second one is at fault. -/
def checkNames (ds : Array GlobalDecl) : Except Fault Unit :=
  ds.toList.zipIdx.forM fun (d, i) =>
    match find? ds d.decl.name.name with
    | some j =>
      if j < i then
        .error (.redefinition (ds[j]?.getD default).decl.name.place d.decl.name.place)
      else .ok ()
    | none => .ok ()

structure Search where
  done : List Nat := []
  /-- The declarations that lead here, with where each is used; the first is outermost. -/
  path : List (Nat × Span) := []
  /-- The declarations that are being visited. -/
  active : List Nat := []

/-- Visits a declaration after what it uses. -/
def visit (ds : Array GlobalDecl) : Nat → Nat → Search → Except Fault Search
  | 0, _, s => .ok s
  | depth + 1, id, s => do
    let d := ds[id]?.getD default
    let nameOf (i : Nat) : Span := (ds[i]?.getD default).decl.name.place
    let s := { s with active := id :: s.active }
    let s ← d.uses.foldlM (fun (s : Search) u =>
      match find? ds u.name with
      | none => .ok s
      | some dep =>
        let path := s.path ++ [(dep, u.place)]
        if s.active.contains dep then
          if dep = id then .error (.recursive d.decl.name.place u.place)
          else .error (.cyclic (nameOf dep) (path.map fun (i, p) => (nameOf i, p)))
        else if s.done.contains dep then .ok s
        else do
          let after ← visit ds depth dep { s with path := path }
          return { after with path := s.path }) s
    return { s with active := s.active.erase id, done := s.done ++ [id] }

/-- The declarations, each after what it uses. -/
def sort (ds : List GlobalDecl) : Except Fault (List GlobalDecl) := do
  let a := ds.toArray
  checkNames a
  let s ← (List.range a.size).foldlM (fun (s : Search) i =>
    if s.done.contains i then .ok s else visit a (a.size + 1) i s) {}
  return s.done.map fun i => a[i]?.getD default

end ShaderConvert.Wgsl.Order
