import ShaderConvert.Summary

/-
What can be wrong with an entry point, in words. A fault may have causes of its own, which follow
it.
-/
namespace ShaderConvert

inductive EntryPointFault where
  | conflict
  | missingVertexOutputPosition
  | unexpectedEarlyDepthTest
  | unexpectedWorkgroupSize
  | outOfRangeWorkgroupSize
  | forbiddenStageOperations
  | invalidGlobalUsage (global : Nat) (use : String)
  | moreThanOnePushConstant
  | bindingCollision (global : Nat)
  | argument (index : Nat) (causes : List String)
  | result (causes : List String)
  | function (causes : List String)
deriving Repr, DecidableEq, Inhabited

namespace EntryPointFault

/-- The fault and its own causes, outermost first. -/
def texts : EntryPointFault → List String
  | conflict => ["Multiple conflicting entry points"]
  | missingVertexOutputPosition => ["Vertex shaders must return a `@builtin(position)` output value"]
  | unexpectedEarlyDepthTest => ["Early depth test is not applicable"]
  | unexpectedWorkgroupSize => ["Workgroup size is not applicable"]
  | outOfRangeWorkgroupSize => ["Workgroup size is out of range"]
  | forbiddenStageOperations => ["Uses operations forbidden at this stage"]
  | invalidGlobalUsage g use => [s!"Global variable [{g}] is used incorrectly as " ++ use]
  | moreThanOnePushConstant => ["More than 1 push constant variable is used"]
  | bindingCollision g => [s!"Bindings for [{g}] conflict with other resource"]
  | argument i causes => s!"Argument {i} varying error" :: causes
  | result causes => causes
  | function causes => causes

/-- The fault of an entry point, with the entry point itself in front. -/
def causes (f : EntryPointFault) (stage : ShaderStage) (name : String) : List String :=
  ("Entry point " ++ name ++ " at " ++ stage.title ++ " is invalid") :: f.texts

end EntryPointFault

end ShaderConvert
