import ShaderConvert.Text.Utf8
import ShaderConvert.Error

/-
Words of a binary module and their bytes.

A module is a list of 32-bit words; on a byte level the least significant byte comes first. A
module written on a machine of the other byte order starts with the magic number reversed, and
`normalize` turns all its words around.

A literal string is packed into words byte by byte and ends with a zero byte; `decodeLiteral`
reads it back and `encodeLiteral` writes it.
-/
namespace ShaderConvert

abbrev Word := UInt32

namespace Words

/-- The first word of every module. -/
def magic : Word := 0x07230203

/-- The magic number with its bytes in the other order. -/
def swappedMagic : Word := 0x03022307

def ofFourBytes (a b c d : UInt8) : Word :=
  a.toUInt32 ||| (b.toUInt32 <<< 8) ||| (c.toUInt32 <<< 16) ||| (d.toUInt32 <<< 24)

/-- The four bytes of a word, least significant first. -/
def bytesOf (w : Word) : List UInt8 :=
  [w.toUInt8, (w >>> 8).toUInt8, (w >>> 16).toUInt8, (w >>> 24).toUInt8]

/-- A word with its bytes in the other order. -/
def swap (w : Word) : Word :=
  ofFourBytes (w >>> 24).toUInt8 (w >>> 16).toUInt8 (w >>> 8).toUInt8 w.toUInt8

/-- The whole words of a byte list; up to three bytes at the end are left out. -/
def ofBytes : List UInt8 → List Word
  | a :: b :: c :: d :: r => ofFourBytes a b c d :: ofBytes r
  | _ => []

def toBytes (ws : List Word) : List UInt8 := ws.flatMap bytesOf

/-- Words in the byte order of this machine. -/
def normalize (ws : List Word) : List Word :=
  if ws.head? = some swappedMagic then ws.map swap else ws

/-- The normalized words of a byte list, which must have a whole number of them. -/
def readBytes (bytes : List UInt8) : Except Error (List Word) :=
  if bytes.length % 4 = 0 then .ok (normalize (ofBytes bytes))
  else .error (.codec s!"binary length {bytes.length} is not a multiple of 4")

/-- The bytes before the first zero byte. -/
def literalBytes (ws : List Word) : List UInt8 := (toBytes ws).takeWhile (· ≠ 0)

/-- The text packed into words, up to the first zero byte. -/
def decodeLiteral (ws : List Word) : String := Utf8.decodeLossy (literalBytes ws)

/-- Zero bytes up to the next whole word, at least one. -/
def terminate (bytes : List UInt8) : List UInt8 :=
  bytes ++ List.replicate (4 - bytes.length % 4) 0

/-- A text packed into words. -/
def encodeLiteral (s : String) : List Word := ofBytes (terminate (Utf8.encode s))

end Words

end ShaderConvert
