import Mathlib.Data.List.TakeWhile
import Mathlib.Tactic
import ShaderConvert.Proofs.Text.LossyDecoding
import ShaderConvert.Proofs.WordRoundTrip

/-
Texts packed into words.

A literal string is the bytes of a text, a zero byte, and zero bytes up to a whole word.  It is read
back from the bytes in front of the first zero byte (`BeforeZero`), so nothing behind that byte
counts.

* `takeWhile_append_zero` — a zero byte hides what follows it;
* `toBytes_encodeLiteral` — packing writes the bytes of the text and from one to four zero bytes;
* `decodeLiteral_encodeLiteral_append` — a text without U+0000 is read back, whatever words follow;
* `decodeLiteral_exact` — what is read from any words at all.
-/
namespace ShaderConvert.Words

/-! ### The first zero byte -/

/-- What a list of bytes has in front of its first zero byte, or all of it if there is none. -/
def BeforeZero (bs pre : List UInt8) : Prop :=
  0 ∉ pre ∧ (bs = pre ∨ ∃ post, bs = pre ++ 0 :: post)

theorem beforeZero_takeWhile (bs : List UInt8) : BeforeZero bs (bs.takeWhile (· ≠ 0)) := by
  refine ⟨fun h => by simpa using List.mem_takeWhile_imp h, ?_⟩
  have hsplit : bs.takeWhile (· ≠ 0) ++ bs.dropWhile (· ≠ 0) = bs :=
    List.takeWhile_append_dropWhile
  cases hd : bs.dropWhile (· ≠ 0) with
  | nil =>
    rw [hd, List.append_nil] at hsplit
    exact .inl hsplit.symm
  | cons b post =>
    have hb : b = 0 := by
      have hhead := List.head?_dropWhile_not (fun b : UInt8 => decide (b ≠ 0)) bs
      rw [hd] at hhead
      simpa using hhead
    rw [hd, hb] at hsplit
    exact .inr ⟨post, hsplit.symm⟩

/-- A zero byte hides what follows it. -/
theorem takeWhile_append_zero (pre post : List UInt8) :
    (pre ++ 0 :: post).takeWhile (· ≠ 0) = pre.takeWhile (· ≠ 0) := by
  induction pre with
  | nil => rfl
  | cons b pre ih => rw [List.cons_append, List.takeWhile_cons, List.takeWhile_cons, ih]

/-- Bytes that agree through a zero byte have the same bytes in front of the first one. -/
theorem takeWhile_eq_of_take_eq {as bs : List UInt8} {i : ℕ} (hzero : bs[i]? = some 0)
    (h : as.take (i + 1) = bs.take (i + 1)) : as.takeWhile (· ≠ 0) = bs.takeWhile (· ≠ 0) := by
  have hcut : bs.take (i + 1) = bs.take i ++ [0] := by rw [List.take_add_one, hzero]; rfl
  have hall : ∀ {cs : List UInt8}, cs.take (i + 1) = bs.take (i + 1) →
      cs.takeWhile (· ≠ 0) = (bs.take i).takeWhile (· ≠ 0) := by
    intro cs hcs
    have hsplit : cs = bs.take i ++ 0 :: cs.drop (i + 1) := by
      conv_lhs => rw [← List.take_append_drop (i + 1) cs, hcs, hcut, List.append_assoc]
      rfl
    rw [hsplit, takeWhile_append_zero]
  rw [hall h, hall rfl]

/-! ### Packing -/

theorem length_terminate (bs : List UInt8) : 4 ∣ (terminate bs).length := by
  rw [terminate, List.length_append, List.length_replicate]
  omega

/-- **A packed text is its bytes and a zero byte**, filled up with zero bytes to a whole word. -/
theorem toBytes_encodeLiteral (s : String) :
    ∃ n < 4, toBytes (encodeLiteral s) = Utf8.encode s ++ 0 :: List.replicate n 0 := by
  refine ⟨3 - (Utf8.encode s).length % 4, by omega, ?_⟩
  rw [encodeLiteral, toBytes_ofBytes (length_terminate _), terminate, ← List.replicate_succ]
  congr 2
  omega

theorem zero_notMem_encode {s : String} (h : '\x00' ∉ s.toList) : 0 ∉ Utf8.encode s :=
  Utf8.notMem_flatMap_utf8EncodeChar (by decide) rfl h

/-- **A packed text is read back**, whatever words follow it. -/
theorem decodeLiteral_encodeLiteral_append {s : String} (h : '\x00' ∉ s.toList) (ws : List Word) :
    decodeLiteral (encodeLiteral s ++ ws) = s := by
  obtain ⟨n, -, hbytes⟩ := toBytes_encodeLiteral s
  have hfront : literalBytes (encodeLiteral s ++ ws) = Utf8.encode s := by
    rw [literalBytes, toBytes_append, hbytes, List.append_assoc, List.cons_append,
      takeWhile_append_zero, List.takeWhile_eq_self_iff]
    intro b hb
    have hb0 : b ≠ 0 := fun h0 => zero_notMem_encode h (h0 ▸ hb)
    simpa using hb0
  rw [decodeLiteral, hfront, Utf8.decodeLossy_encode]

/-- **A literal string is what stands in front of the first zero byte.**  A text is packed as its
bytes, a zero byte and as many more as fill the last word; without U+0000 it is read back, whatever
words follow.  From any words is read the lossy decoding of the bytes in front of the first zero
byte, which has no U+0000 and does not depend on any byte behind a zero byte. -/
theorem decodeLiteral_exact (ws : List Word) :
    (∀ s : String,
      (∃ n < 4, toBytes (encodeLiteral s) = Utf8.encode s ++ 0 :: List.replicate n 0) ∧
      ('\x00' ∉ s.toList → decodeLiteral (encodeLiteral s ++ ws) = s)) ∧
    (∃ pre, BeforeZero (toBytes ws) pre ∧ decodeLiteral ws = Utf8.decodeLossy pre ∧
      ∀ s : String, Utf8.Lossy pre s.toList ↔ s = decodeLiteral ws) ∧
    '\x00' ∉ (decodeLiteral ws).toList ∧
    (∀ vs i, (toBytes ws)[i]? = some 0 →
      (toBytes vs).take (i + 1) = (toBytes ws).take (i + 1) →
        decodeLiteral vs = decodeLiteral ws) := by
  have hfront := beforeZero_takeWhile (toBytes ws)
  have hlossy : Utf8.Lossy (literalBytes ws) (decodeLiteral ws).toList :=
    (Utf8.lossy_iff _ _).mpr rfl
  refine ⟨fun s => ⟨toBytes_encodeLiteral s, fun h => decodeLiteral_encodeLiteral_append h ws⟩,
    ⟨literalBytes ws, hfront, rfl, Utf8.lossy_iff _⟩, hlossy.nul_notMem hfront.1, ?_⟩
  intro vs i hzero h
  rw [decodeLiteral, decodeLiteral, literalBytes, literalBytes, takeWhile_eq_of_take_eq hzero h]

/-- A text whose characters lie across words, and a byte that changes behind the zero byte. -/
theorem decodeLiteral_exact_straddling :
    decodeLiteral (encodeLiteral "a日本語" ++ [0x00006261]) = "a日本語" ∧
    decodeLiteral [0xFF006261] = decodeLiteral [0x00006261] := by
  obtain ⟨hread, -, -, hbehind⟩ := decodeLiteral_exact [0x00006261]
  exact ⟨(hread "a日本語").2 (by decide), hbehind [0xFF006261] 2 (by decide) (by decide)⟩

end ShaderConvert.Words
