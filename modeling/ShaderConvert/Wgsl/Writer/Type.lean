import ShaderConvert.Ir.Typing
import ShaderConvert.Number.Binary
import ShaderConvert.Number.Power
import ShaderConvert.Wgsl.Writer.Names

/-
Types and the values known beforehand, as source text.

A type is written by its shape, a struct by its name. Since a type only refers to earlier ones, all
texts are found in one pass (`typeTexts`).
-/
namespace ShaderConvert.Wgsl.Writer

open Ir

/-- Why a module cannot be written. -/
inductive Fault where
  | overrides
  | math (function : MathFunction)
  | relational (function : RelationalFunction)
  | builtIn (value : BuiltIn)
  | fallThrough
  | abstractLiteral
  | notIndexable (shape : Shape)
deriving Repr, DecidableEq, Inhabited

def Fault.message : Fault → String
  | overrides => "Pipeline constants are not yet supported for this back-end"
  | math f => "Unsupported math function: " ++ f.title
  | relational f => "Unsupported relational function: " ++ f.title
  | builtIn b => "Unsupported builtin " ++ b.title
  | fallThrough => "fall-through switch case block"
  | abstractLiteral => "Abstract types should not appear in IR presented to backends"
  | notIndexable s => "Cannot index " ++ s.debugText

/-- The name of a space and, where it says more than is understood, the access. -/
def spaceText : AddressSpace → Option String × Option String
  | .privateSpace => (some "private", none)
  | .uniform => (some "uniform", none)
  | .storage a => (some "storage", if a.store then some "read_write" else none)
  | .pushConstant => (some "push_constant", none)
  | .workGroup => (some "workgroup", none)
  | .handle => (none, none)
  | .function => (some "function", none)

def vectorText (n : VectorSize) (s : Scalar) : String := s!"vec{n.count}<" ++ s.sourceName ++ ">"

def matrixText (columns rows : VectorSize) (s : Scalar) : String :=
  s!"mat{columns.count}x{rows.count}<" ++ s.sourceName ++ ">"

def pointerText (target : String) (space : AddressSpace) : String :=
  match spaceText space with
  | (some name, access) =>
    "ptr<" ++ name ++ ", " ++ target ++ ((access.map (", " ++ ·)).getD "") ++ ">"
  | (none, _) => target

def imageText (dimension : ImageDimension) (arrayed : Bool) (cls : ImageClass) : String :=
  let many (multi : Bool) : String := if multi then "multisampled_" else ""
  let tail := dimension.sourceName ++ (if arrayed then "_array" else "")
  match cls with
  | .sampled kind multi =>
    "texture_" ++ many multi ++ tail ++ "<" ++ (Scalar.mk kind 4).sourceName ++ ">"
  | .depth multi => "texture_depth_" ++ many multi ++ tail

/-- The text of a shape, given the texts of the types that it refers to and its own name. -/
def shapeText (known : Array String) (name : String) : Shape → String
  | .scalar s => s.sourceName
  | .vector n s => vectorText n s
  | .matrix c r s => matrixText c r s
  | .pointer base space => pointerText (known[base]?.getD "") space
  | .valuePointer none s space => pointerText s.sourceName space
  | .valuePointer (some n) s space => pointerText (vectorText n s) space
  | .array base (.constant n) _ => "array<" ++ known[base]?.getD "" ++ s!", {n}>"
  | .array base .dynamic _ => "array<" ++ known[base]?.getD "" ++ ">"
  | .struct _ _ => name
  | .image d a c => imageText d a c
  | .sampler false => "sampler"
  | .sampler true => "sampler_comparison"

def typeTexts (m : Module) (names : Names) : Array String :=
  m.types.entries.foldl (fun known (i, t) =>
    known.push (shapeText known (names.types[i]?.getD "") t.shape)) #[]

/-- A value of 32 bits in the fewest digits that read back, without an exponent. -/
def singleText (bits : Nat) : String :=
  let f := Number.single
  match f.read bits with
  | .finite negative _ _ =>
    let (d, x) := f.shortest bits
    (if negative then "-" else "") ++ Number.positional d x
  | .infinite negative => if negative then "-inf" else "inf"
  | .notANumber _ _ => "NaN"

/-- A value of 64 bits in the fewest digits that read back: very large and very small values with an
exponent, and whole numbers with a point. -/
def doubleText (bits : Nat) : String :=
  let f := Number.double
  match f.read bits with
  | .finite negative m _ =>
    let (d, x) := f.shortest bits
    let (head, power) := Number.scientificParts d x
    let sign := if negative then "-" else ""
    if m ≠ 0 ∧ (power < -4 ∨ 16 ≤ power) then sign ++ head ++ s!"e{power}"
    else sign ++ Number.positional d x ++ (if x ≥ 0 then ".0" else "")
  | .infinite negative => if negative then "-inf" else "inf"
  | .notANumber _ _ => "NaN"

/-- The least integer has no literal of its own. -/
def literalText : Literal → Except Fault String
  | .f32 bits => .ok (singleText bits ++ "f")
  | .f64 bits => .ok (doubleText bits ++ "lf")
  | .u32 n => .ok s!"{n}u"
  | .i32 n => .ok (if n = -(twoTo 31 : Int) then s!"i32({n})" else s!"{n}i")
  | .u64 n => .ok s!"{n}lu"
  | .i64 n => .ok (if n = -(twoTo 63 : Int) then s!"i64({n})" else s!"{n}li")
  | .bool b => .ok (if b then "true" else "false")
  | .abstractInt _ | .abstractFloat _ => .error .abstractLiteral

/-- What the texts of a module share. -/
structure Scope where
  module : Module
  names : Names
  types : Array String
  explicitTypes : Bool

namespace Scope

def typeText (s : Scope) (t : TypeId) : String := s.types[t]?.getD ""

def resolvedText (s : Scope) : Resolved → String
  | .named t => s.typeText t
  | .shape shape => shapeText s.types "" shape

end Scope

/-- A list of texts in brackets. -/
def callText (head : String) (arguments : List String) : String :=
  head ++ "(" ++ Text.joinWith ", " arguments ++ ")"

/-- An expression outside of functions. Constants without a name are written out. The first argument
bounds how deep expressions refer to each other. -/
def constantText (s : Scope) : Nat → ExprId → Except Fault String
  | 0, _ => .ok ""
  | depth + 1, e =>
    match s.module.globalExpressions.get e with
    | .literal l => literalText l
    | .constant c =>
      let constant := s.module.constants.get c
      if constant.name.isSome then .ok (s.names.constants[c]?.getD "")
      else constantText s depth constant.init
    | .zeroValue t => .ok (callText (s.typeText t) [])
    | .compose t components => do
      return callText (s.typeText t) (← components.mapM (constantText s depth))
    | .splat n value => do return callText s!"vec{n.count}" [← constantText s depth value]
    | _ => .ok ""

/-- Expressions outside of functions refer to earlier expressions and to constants, which do so
themselves. -/
def Scope.constantText (s : Scope) (e : ExprId) : Except Fault String :=
  Writer.constantText s (2 * s.module.globalExpressions.size + 2) e

end ShaderConvert.Wgsl.Writer
