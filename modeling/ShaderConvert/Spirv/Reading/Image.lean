import ShaderConvert.Spirv.Reading.Expression

/-
Instructions that sample images.

The place in the image may come with numbers that the image has no use for; they are cut off. The
layer of an array of images is the number after the place.
-/
namespace ShaderConvert.Spirv.Reading

open Ir

/-- An image with a sampler is no value of its own. -/
def readSampledPair (h : Head) : Drafting Unit := do
  h.expect 5
  discard next
  let id ← next
  let imageId ← next
  let samplerId ← next
  let i ← findValue imageId
  let s ← findValue samplerId
  let image ← use imageId i
  let sampler ← use samplerId s
  modify fun d => { d with sampled := (id, (image, sampler)) :: d.sampled }

/-- The type of an image or sampler that is a variable or an argument. -/
def resourceType (e : ExprId) : Drafting TypeId := do
  let d ← get
  match d.function.expressions.get e with
  | .globalVariable g => return ((← reader).module.globals.get g).type
  | .functionArgument i => return ((d.function.arguments[i]?).getD default).type
  | other => throw (.globalVariable (expressionTitle other))

/-- The place in an image and the layer, from the given numbers. -/
def splitPlace (dimension : ImageDimension) (arrayed : Bool) (given : ExprId) (shape : Shape) :
    Drafting (ExprId × Option ExprId) := do
  let span := (← get).function.expressions.span given
  let wanted := coordinateSize dimension
  let part (i : Nat) : Drafting ExprId := append (.accessIndex given i) span
  if arrayed then
    let place ← match wanted with
      | none => part 0
      | some n => do
        let parts ← (List.range n.count).mapM part
        let scalar : Scalar := ⟨(shape.scalarKind?).getD .float, 4⟩
        let m := (← reader).module
        match m.types.findIdx? (· == ⟨none, .vector n scalar⟩) with
        | some t => append (.compose t parts) span
        | none => throw .noValue
    let number ← part ((wanted.map (·.count)).getD 1)
    let layer ← append (.convert number .sint (some 4)) span
    return (place, some layer)
  else
    let size := match shape with
      | .vector n _ => some n
      | _ => none
    if size = wanted then return (given, none)
    match wanted with
    | none => return (← part 0, none)
    | some n =>
      let pattern := [SwizzleComponent.x, .y, .z, .w].take n.count
      return (← append (.swizzle n given pattern) span, none)

/-- The level that the extra operands ask for, from the mask that comes before them. -/
def readLevel (extra : Nat) : Drafting SampleLevel := do
  match extra with
  | 0 => return .automatic
  | n + 1 =>
    let mask ← next
    match mask with
    | 1 => return .bias (← nextOperand)
    | 2 => return .exact (← nextOperand)
    | _ => do
      discard (nextMany n)
      return .automatic

def readSample (h : Head) : Drafting Unit := do
  h.expectAtLeast 5
  let typeId ← next
  let id ← next
  let pairId ← next
  let placeId ← next
  let level ← readLevel (h.count - 5)
  let (image, sampler) ← find (← get).sampled pairId
  let v ← findValue placeId
  let given ← use placeId v
  let t ← findType v.typeId
  let imageType ← resourceType image
  discard (resourceType sampler)
  match ← shapeOf imageType with
  | .image dimension arrayed _ =>
    let (place, layer) ← splitPlace dimension arrayed given (← shapeOf t.type)
    defineAs id typeId (.imageSample image sampler place layer level none) h
  | _ => throw (.invalidType .image imageType)

end ShaderConvert.Spirv.Reading
