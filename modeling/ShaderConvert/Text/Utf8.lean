/-
UTF-8 between byte lists and texts.

`front` looks at the first character of a byte list; both decoders repeat it.

* `decode` is strict: the first fault ends it, and the fault says where the good part stops and how
  many bytes are to blame.
* `decodeLossy` never fails: every maximal faulty piece becomes one U+FFFD.
* `encode` is the inverse of both on texts.
-/
namespace ShaderConvert.Utf8

/-- A fault in a byte list that should be UTF-8: the index of the first byte that belongs to no
character, and how many bytes are certainly wrong; no width means that the input ends inside a
character. -/
structure Fault where
  index : Nat
  width : Option Nat
deriving Repr, DecidableEq

def Fault.message (f : Fault) : String :=
  match f.width with
  | some n => s!"invalid utf-8 sequence of {n} bytes from index {f.index}"
  | none => s!"incomplete utf-8 byte sequence from index {f.index}"

/-- What stands at the front of a byte list. -/
inductive Front where
  /-- Nothing is left. -/
  | done
  /-- A whole character of `width` bytes. -/
  | char (c : Char) (width : Nat)
  /-- `width` bytes that begin no character. -/
  | bad (width : Nat)
  /-- The list ends inside a character. -/
  | cut
deriving Repr, DecidableEq

/-- Continuation bytes are 80 to BF. -/
def isContinuation (b : UInt8) : Bool := 0x80 ≤ b && b ≤ 0xBF

/-- How many bytes a character has that starts with `b`; zero if none does. -/
def leadWidth (b : UInt8) : Nat :=
  if b < 0x80 then 1
  else if 0xC2 ≤ b && b ≤ 0xDF then 2
  else if 0xE0 ≤ b && b ≤ 0xEF then 3
  else if 0xF0 ≤ b && b ≤ 0xF4 then 4
  else 0

/-- The second byte is narrower after four lead bytes: no overlong form, no surrogate, nothing
above 10FFFF. -/
def isSecond (lead b : UInt8) : Bool :=
  if lead = 0xE0 then 0xA0 ≤ b && b ≤ 0xBF
  else if lead = 0xED then 0x80 ≤ b && b ≤ 0x9F
  else if lead = 0xF0 then 0x90 ≤ b && b ≤ 0xBF
  else if lead = 0xF4 then 0x80 ≤ b && b ≤ 0x8F
  else isContinuation b

/-- The six low bits of a continuation byte. -/
def payload (b : UInt8) : Nat := b.toNat % 64

def front : List UInt8 → Front
  | [] => .done
  | a :: r =>
    match leadWidth a, r with
    | 1, _ => .char (Char.ofNat a.toNat) 1
    | 2, [] => .cut
    | 2, b :: _ =>
      if isSecond a b then .char (Char.ofNat (a.toNat % 32 * 64 + payload b)) 2 else .bad 1
    | 3, [] => .cut
    | 3, b :: r =>
      if isSecond a b then
        match r with
        | [] => .cut
        | c :: _ =>
          if isContinuation c then
            .char (Char.ofNat ((a.toNat % 16 * 64 + payload b) * 64 + payload c)) 3
          else .bad 2
      else .bad 1
    | 4, [] => .cut
    | 4, b :: r =>
      if isSecond a b then
        match r with
        | [] => .cut
        | c :: r =>
          if isContinuation c then
            match r with
            | [] => .cut
            | d :: _ =>
              if isContinuation d then
                .char (Char.ofNat
                  (((a.toNat % 8 * 64 + payload b) * 64 + payload c) * 64 + payload d)) 4
              else .bad 3
          else .bad 2
      else .bad 1
    | _, _ => .bad 1

/-- One step per byte is enough, so the bytes still to skip are counted instead of dropped. -/
def decodeFrom (index skip : Nat) : List UInt8 → Except Fault (List Char)
  | [] => .ok []
  | b :: r =>
    match skip with
    | n + 1 => decodeFrom (index + 1) n r
    | 0 =>
      match front (b :: r) with
      | .done => .ok []
      | .char c w => (decodeFrom (index + 1) (w - 1) r).map (c :: ·)
      | .bad w => .error ⟨index, some w⟩
      | .cut => .error ⟨index, none⟩

/-- The text of a byte list, or its first fault. -/
def decode (bytes : List UInt8) : Except Fault String :=
  (decodeFrom 0 0 bytes).map String.ofList

/-- The sign for bytes that belong to no character. -/
def replacement : Char := Char.ofNat 0xFFFD

def decodeLossyFrom (skip : Nat) : List UInt8 → List Char
  | [] => []
  | b :: r =>
    match skip with
    | n + 1 => decodeLossyFrom n r
    | 0 =>
      match front (b :: r) with
      | .done => []
      | .char c w => c :: decodeLossyFrom (w - 1) r
      | .bad w => replacement :: decodeLossyFrom (w - 1) r
      | .cut => [replacement]

/-- The text of a byte list with one replacement sign for every maximal faulty piece. -/
def decodeLossy (bytes : List UInt8) : String := String.ofList (decodeLossyFrom 0 bytes)

/-- The bytes of a text. -/
def encode (s : String) : List UInt8 := s.toList.flatMap String.utf8EncodeChar

/-- How many bytes a text takes. -/
def size (cs : List Char) : Nat := cs.foldl (fun n c => n + c.utf8Size) 0

end ShaderConvert.Utf8
