import ShaderConvert.Ir.Usage
import ShaderConvert.Wgsl.Writer.Type

/-
Expressions as source text.

A variable, and a part of what a pointer points to, stand in the source for the place itself, while
the module means a pointer to it. `Form` tells the two apart, and `Frame.expressionText` adds `&` or
`*` where the text of an expression has the form that is not wanted. An expression that was given a
name before is written by its name.
-/
namespace ShaderConvert.Wgsl.Writer

open Ir

/-- What a text stands for: a value, which may be a pointer, or a place. -/
inductive Form where
  | value
  | place
deriving Repr, DecidableEq

/-- A function that is written, with what is known of it. -/
structure Frame where
  scope : Scope
  function : Function
  names : FunctionNames
  info : FunctionInfo

/-- The expressions that have got a name so far. -/
abbrev Named := List (ExprId × String)

namespace Frame

variable (c : Frame)

def module : Module := c.scope.module

def shapeOf (e : ExprId) : Shape := (c.info.typeOf e).shapeIn c.module.types

def isPointer : Shape → Bool
  | .pointer _ _ | .valuePointer _ _ _ => true
  | _ => false

/-- The form that the text of an expression has by itself. -/
def formOf (named : Named) (e : ExprId) : Form :=
  if (named.lookup e).isSome then .value
  else
    match c.function.expressions.get e with
    | .localVariable _ => .place
    | .globalVariable g => if (c.module.globals.get g).space = .handle then .value else .place
    | .access base _ | .accessIndex base _ => if isPointer (c.shapeOf base) then .place else .value
    | _ => .value

def inForm (wanted actual : Form) (text : String) : String :=
  match wanted, actual with
  | .value, .place => "(&" ++ text ++ ")"
  | .place, .value => "(*" ++ text ++ ")"
  | _, _ => text

/-- The part of a value that a number stands for. -/
def partText (base : ExprId) (index : Nat) : Except Fault String :=
  let resolved := c.info.typeOf base
  let shape := resolved.shapeIn c.module.types
  let (type?, shape) :=
    match shape, resolved with
    | .pointer target _, _ => (some target, (c.module.types.get target).shape)
    | _, .named t => (some t, shape)
    | _, .shape _ => (none, shape)
  match shape with
  | .vector _ _ => .ok (((SwizzleComponent.ofIndex? index).map fun k => s!".{k.letter}").getD "")
  | .matrix _ _ _ | .array _ _ _ | .valuePointer _ _ _ => .ok s!"[{index}]"
  | .struct _ _ =>
    let members := (type?.bind fun t => c.scope.names.members[t]?).getD []
    .ok ("." ++ members[index]?.getD "")
  | other => .error (.notIndexable other)

/-- The head of a conversion of a value. -/
def conversionText (e : ExprId) (kind : ScalarKind) (width : Option Nat) : Except Fault String :=
  let scalarOf (s : Scalar) : Scalar := ⟨kind, width.getD s.width⟩
  let head (text : String) : String := if width.isSome then text else "bitcast<" ++ text ++ ">"
  match c.shapeOf e with
  | .scalar s => .ok (head (scalarOf s).sourceName)
  | .vector n s => .ok (head (vectorText n (scalarOf s)))
  | .matrix columns rows s => .ok (matrixText columns rows (scalarOf s))
  | other => .error (.notIndexable other)

end Frame

def derivativeName (axis : DerivativeAxis) (control : DerivativeControl) : String :=
  (match axis with
    | .x => "dpdx"
    | .y => "dpdy"
    | .width => "fwidth")
  ++ match control with
    | .coarse => "Coarse"
    | .fine => "Fine"
    | .none => ""

def sampleName (level : SampleLevel) (compares : Bool) : String :=
  "textureSample" ++ (if compares then "Compare" else "")
  ++ match level with
    | .automatic => ""
    | .zero | .exact _ => "Level"
    | .bias _ => "Bias"

/-- The text of an expression in a wanted form. The first argument bounds how deep expressions refer
to each other. -/
def expressionText (c : Frame) (named : Named) : Nat → Form → ExprId → Except Fault String
  | 0, _, _ => .ok ""
  | depth + 1, wanted, e => do
    let actual := c.formOf named e
    let value (e : ExprId) : Except Fault String := expressionText c named depth .value e
    let text ← match named.lookup e with
      | some name => pure name
      | none =>
        match c.function.expressions.get e with
        | .literal l => literalText l
        | .constant k =>
          let constant := c.module.constants.get k
          if constant.name.isSome then pure (c.scope.names.constants[k]?.getD "")
          else c.scope.constantText constant.init
        | .override _ => .error .overrides
        | .zeroValue t => pure (callText (c.scope.typeText t) [])
        | .compose t components => callText (c.scope.typeText t) <$> components.mapM value
        | .splat n v => do
          let v ← value v
          pure (callText s!"vec{n.count}" [v])
        | .functionArgument i => pure (c.names.arguments[i]?.getD "")
        | .globalVariable g => pure (c.scope.names.globals[g]?.getD "")
        | .localVariable i => pure (c.names.locals[i]?.getD "")
        | .access base index => do
          let b ← expressionText c named depth actual base
          let i ← value index
          pure (b ++ "[" ++ i ++ "]")
        | .accessIndex base index => do
          let b ← expressionText c named depth actual base
          let part ← c.partText base index
          pure (b ++ part)
        | .swizzle _ vector pattern => do
          let v ← value vector
          pure (v ++ "." ++ String.ofList (pattern.map (·.letter)))
        | .load pointer => expressionText c named depth .place pointer
        | .imageSample image sampler coordinate arrayIndex level depthReference => do
          let lead ← ([image, sampler, coordinate] ++ arrayIndex.toList
            ++ depthReference.toList).mapM value
          let last ← match level with
            | .automatic => pure []
            -- a comparison is always made at the first level
            | .zero => pure (if depthReference.isSome then [] else ["0.0"])
            | .exact l | .bias l => (fun t => [t]) <$> value l
          pure (callText (sampleName level depthReference.isSome) (lead ++ last))
        | .unary op operand => do
          let t ← value operand
          pure (op.symbol ++ "(" ++ t ++ ")")
        | .binary op left right => do
          let l ← value left
          let r ← value right
          pure ("(" ++ l ++ " " ++ op.symbol ++ " " ++ r ++ ")")
        | .select condition accept reject =>
          callText "select" <$> [reject, accept, condition].mapM value
        | .derivative axis control operand => do
          let t ← value operand
          pure (callText (derivativeName axis control) [t])
        | .relational f argument =>
          match f with
          | .all => (fun t => callText "all" [t]) <$> value argument
          | .any => (fun t => callText "any" [t]) <$> value argument
          | f => .error (.relational f)
        | .math f arguments =>
          match f.sourceName? with
          | some name => callText name <$> arguments.mapM value
          | none => .error (.math f)
        | .convert operand kind width => do
          let head ← c.conversionText operand kind width
          let t ← value operand
          pure (callText head [t])
        | .arrayLength array => do
          let t ← value array
          pure (callText "arrayLength" [t])
        | .callResult _ => pure ""
    return Frame.inForm wanted actual text

/-- An expression only refers to earlier ones. -/
def Frame.expressionText (c : Frame) (named : Named) (form : Form) (e : ExprId) :
    Except Fault String :=
  Writer.expressionText c named (c.function.expressions.size + 1) form e

end ShaderConvert.Wgsl.Writer
