import ShaderConvert.Ir.Expression
import ShaderConvert.Wgsl.Numeral

/-
Source texts as trees.

An identifier that names a local is settled while parsing (`Expr.ident` with a number); any other
name is looked up when the program is put together.
-/
namespace ShaderConvert.Wgsl.Ast

/-- A name and where it stands. -/
structure Ident where
  name : String
  place : Span
deriving Repr, DecidableEq, Inhabited

inductive Lit where
  | number (value : Numeral)
  | bool (value : Bool)
deriving Repr, DecidableEq, Inhabited

mutual

inductive Expr where
  | literal (value : Lit) (place : Span)
  | ident (name : String) (slot : Option Nat) (place : Span)
  | construct (type : Constructor) (typePlace : Span) (arguments : List Expr) (place : Span)
  | unary (op : Ir.UnaryOperator) (operand : Expr) (place : Span)
  | addressOf (operand : Expr) (place : Span)
  | deref (operand : Expr) (place : Span)
  | binary (op : Ir.BinaryOperator) (left right : Expr) (place : Span)
  | call (function : Ident) (arguments : List Expr) (place : Span)
  | index (base index : Expr) (place : Span)
  | member (base : Expr) (field : Ident) (place : Span)
  | bitcast (operand : Expr) (type : TypeExpr) (typePlace : Span) (place : Span)

inductive TypeExpr where
  | scalar (scalar : Ir.Scalar)
  | vector (size : Ir.VectorSize) (scalar : Ir.Scalar)
  | matrix (columns rows : Ir.VectorSize) (width : Nat)
  | pointer (base : TypeExpr) (space : AddressSpace)
  | array (base : TypeExpr) (size : Option Expr)
  | image (dimension : Ir.ImageDimension) (arrayed : Bool) (cls : Ir.ImageClass)
  | sampler (comparison : Bool)
  | user (name : Ident)

/-- A type in front of arguments; parts of it may be left to the arguments. -/
inductive Constructor where
  | scalar (scalar : Ir.Scalar)
  | partialVector (size : Ir.VectorSize)
  | vector (size : Ir.VectorSize) (scalar : Ir.Scalar)
  | partialMatrix (columns rows : Ir.VectorSize)
  | matrix (columns rows : Ir.VectorSize) (width : Nat)
  | partialArray
  | array (base : TypeExpr) (size : Option Expr)

end

instance : Inhabited Expr := ⟨.literal default default⟩
instance : Inhabited TypeExpr := ⟨.sampler false⟩
instance : Inhabited Constructor := ⟨.partialArray⟩

def Expr.place : Expr → Span
  | literal _ p | ident _ _ p | construct _ _ _ p | unary _ _ p | addressOf _ p | deref _ p
  | binary _ _ _ p | call _ _ p | index _ _ p | member _ _ p | bitcast _ _ _ p => p

/-- The value of a case; `none` is the default. -/
abbrev CaseValue := Option Expr

mutual

inductive Stmt where
  | mk (kind : StmtKind) (place : Span)

inductive StmtKind where
  | letDecl (name : Ident) (slot : Nat) (type : Option TypeExpr) (init : Expr)
  | varDecl (name : Ident) (slot : Nat) (type : Option TypeExpr) (init : Option Expr)
  | block (body : List Stmt)
  | branch (condition : Expr) (accept reject : List Stmt)
  | switch (selector : Expr) (cases : List Case)
  | loop (body continuing : List Stmt) (breakIf : Option Expr)
  | exit
  | next
  | ret (value : Option Expr)
  | kill
  | call (function : Ident) (arguments : List Expr)
  | assign (target : Expr) (op : Option Ir.BinaryOperator) (value : Expr)
  | increment (target : Expr)
  | decrement (target : Expr)
  | phony (value : Expr)

inductive Case where
  | mk (value : CaseValue) (body : List Stmt) (fallThrough : Bool)

end

instance : Inhabited StmtKind := ⟨.exit⟩
instance : Inhabited Stmt := ⟨.mk .exit default⟩
instance : Inhabited Case := ⟨.mk none [] false⟩

def Stmt.kind : Stmt → StmtKind
  | mk k _ => k

def Stmt.place : Stmt → Span
  | mk _ p => p

inductive Binding where
  | builtIn (value : Ir.BuiltIn)
  | location (location : Expr) (secondBlendSource : Bool) (interpolation : Option Ir.Interpolation)
      (sampling : Option Ir.Sampling)
deriving Inhabited

structure Argument where
  name : Ident
  type : TypeExpr
  binding : Option Binding
  slot : Nat
deriving Inhabited

structure EntryPoint where
  stage : ShaderStage
  earlyDepthTest : Bool
  workgroupSize : Option (List Expr)
deriving Inhabited

structure Function where
  entryPoint : Option EntryPoint
  name : Ident
  arguments : List Argument
  result : Option (TypeExpr × Option Binding)
  body : List Stmt
deriving Inhabited

structure Member where
  name : Ident
  type : TypeExpr
  binding : Option Binding
  size : Option Expr
  align : Option Expr
deriving Inhabited

structure GlobalVariable where
  name : Ident
  space : Option AddressSpace
  binding : Option (Expr × Expr)
  type : TypeExpr
  init : Option Expr
deriving Inhabited

inductive Decl where
  | fn (function : Function)
  | var (global : GlobalVariable)
  | const (name : Ident) (type : Option TypeExpr) (init : Expr)
  | override (name : Ident) (id : Option Expr) (type : Option TypeExpr) (init : Option Expr)
  | struct (name : Ident) (members : List Member)
  | typeAlias (name : Ident) (type : TypeExpr)
deriving Inhabited

def Decl.name : Decl → Ident
  | fn f => f.name
  | var v => v.name
  | const n _ _ | override n _ _ _ | struct n _ | typeAlias n _ => n

/-- A declaration, the names that it uses and does not bind itself, and where it stands. -/
structure GlobalDecl where
  decl : Decl
  uses : List Ident
  place : Span
deriving Inhabited

end ShaderConvert.Wgsl.Ast
