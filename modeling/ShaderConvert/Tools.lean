import ShaderConvert.Codec
import ShaderConvert.Ir.Validity
import ShaderConvert.Spirv.Emission.Module
import ShaderConvert.Spirv.Reading.Module
import ShaderConvert.Wgsl.Lowering.Module
import ShaderConvert.Wgsl.Writer.Module

/-
The tools that conversions run on: the assembler and disassembler, the reader and writer of each
language, and the checks between them, put together as one toolchain over modules.
-/
namespace ShaderConvert

/-- The reply of reading a binary: some faults end the whole run rather than the reading. -/
def Spirv.Reading.Fault.reply {α : Type} : Spirv.Reading.Fault → Reply (List String) α
  | .abort text => .abort text
  | fault => .error [fault.message]

/-- The reply of reading a source: a constant vector that lacks a component ends the whole run. -/
def Wgsl.Fault.reply {α : Type} (source : String) : Wgsl.Fault → Reply SourceError α
  | .constant (.missingComponent count index) _ =>
    .abort (Ir.ConstantFault.missingComponent count index).message
  | fault => .error (fault.error source)

/-- The toolchain of this library. -/
def Toolchain.standard : Toolchain Ir.Module where
  assemble := Codec.assemble
  disassemble := Codec.disassemble
  validate := Codec.validate
  parseSource source :=
    match Wgsl.parseModule source with
    | .ok m => .ok m
    | .error fault => fault.reply source
  parseBinary settings words :=
    match Spirv.parseBinary settings words with
    | .ok m => .ok m
    | .error fault => fault.reply
  check m := (Reply.ofExcept m.check).map fun _ => ()
  emitSource o m :=
    match m.check with
    | .error i => .error (chainText i.causes)
    | .ok info => (Reply.ofExcept (Wgsl.writeModule o.explicitTypes m info)).mapError (·.message)
  emitBinary o m :=
    match m.check with
    | .error i => .error (chainText i.causes)
    | .ok info => (Reply.ofExcept (Spirv.emitBinary o m info)).mapError (·.message)

/-- What the entry points of a module take and give. -/
def interfaceOf (m : Ir.Module) : ModuleInterface := m.interface

end ShaderConvert
