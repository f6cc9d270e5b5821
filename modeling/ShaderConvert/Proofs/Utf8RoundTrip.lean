import Mathlib.Tactic
import ShaderConvert.Text.Utf8

/-
Reading back what was written in UTF-8.

* `front_utf8EncodeChar` — the front of an encoded character is that character, whole;
* `decodeLossy_encode`, `decode_encode` — lossy and strict decoding give back every text;
* `filter_encode` — dropping zero bytes from an encoded text drops the characters U+0000 and
  nothing else: no other character has a zero byte;
* `length_encode` — the number of bytes is the size of the text in UTF-8.

The bytes of a character are compared as numbers throughout (`leadWidth_of_*`, `isSecond_of`,
`isContinuation_iff`), so that the four widths are left to `omega`.
-/
namespace ShaderConvert.Utf8

theorem toNat_ofNat {n : ℕ} (h : n < 256) : (UInt8.ofNat n).toNat = n :=
  UInt8.toNat_ofNat_of_lt' h

/-! ### Classes of bytes, as numbers -/

theorem isContinuation_iff (b : UInt8) :
    isContinuation b = true ↔ 0x80 ≤ b.toNat ∧ b.toNat ≤ 0xBF := by
  simp [isContinuation, UInt8.le_iff_toNat_le]

theorem leadWidth_of_lt {b : UInt8} (h : b.toNat < 0x80) : leadWidth b = 1 := by
  have hb : b < 0x80 := UInt8.lt_iff_toNat_lt.mpr h
  rw [leadWidth, if_pos hb]

theorem leadWidth_of_two {b : UInt8} (h : 0xC2 ≤ b.toNat) (h' : b.toNat ≤ 0xDF) :
    leadWidth b = 2 := by
  simp only [leadWidth, UInt8.lt_iff_toNat_lt, UInt8.le_iff_toNat_le, Bool.and_eq_true,
    decide_eq_true_eq, UInt8.reduceToNat]
  rw [if_neg (by omega), if_pos (by omega)]

theorem leadWidth_of_three {b : UInt8} (h : 0xE0 ≤ b.toNat) (h' : b.toNat ≤ 0xEF) :
    leadWidth b = 3 := by
  simp only [leadWidth, UInt8.lt_iff_toNat_lt, UInt8.le_iff_toNat_le, Bool.and_eq_true,
    decide_eq_true_eq, UInt8.reduceToNat]
  rw [if_neg (by omega), if_neg (by omega), if_pos (by omega)]

theorem leadWidth_of_four {b : UInt8} (h : 0xF0 ≤ b.toNat) (h' : b.toNat ≤ 0xF4) :
    leadWidth b = 4 := by
  simp only [leadWidth, UInt8.lt_iff_toNat_lt, UInt8.le_iff_toNat_le, Bool.and_eq_true,
    decide_eq_true_eq, UInt8.reduceToNat]
  rw [if_neg (by omega), if_neg (by omega), if_neg (by omega), if_pos (by omega)]

/-- The second byte of a character is a continuation byte, and narrower after four lead bytes. -/
theorem isSecond_of {a b : UInt8} (h : 0x80 ≤ b.toNat) (h' : b.toNat ≤ 0xBF)
    (hE0 : a.toNat = 0xE0 → 0xA0 ≤ b.toNat) (hED : a.toNat = 0xED → b.toNat ≤ 0x9F)
    (hF0 : a.toNat = 0xF0 → 0x90 ≤ b.toNat) (hF4 : a.toNat = 0xF4 → b.toNat ≤ 0x8F) :
    isSecond a b = true := by
  simp only [isSecond, isContinuation, ← UInt8.toNat_inj, UInt8.le_iff_toNat_le, UInt8.reduceToNat]
  split_ifs <;> simp only [Bool.and_eq_true, decide_eq_true_eq] <;> omega

/-! ### The front of an encoded character -/

theorem front_of_two {a b : UInt8} {r : List UInt8} (hw : leadWidth a = 2)
    (hs : isSecond a b = true) :
    front (a :: b :: r) = .char (Char.ofNat (a.toNat % 32 * 64 + payload b)) 2 := by
  simp [front, hw, hs]

theorem front_of_three {a b d : UInt8} {r : List UInt8} (hw : leadWidth a = 3)
    (hs : isSecond a b = true) (hd : isContinuation d = true) :
    front (a :: b :: d :: r)
      = .char (Char.ofNat ((a.toNat % 16 * 64 + payload b) * 64 + payload d)) 3 := by
  simp [front, hw, hs, hd]

theorem front_of_four {a b d e : UInt8} {r : List UInt8} (hw : leadWidth a = 4)
    (hs : isSecond a b = true) (hd : isContinuation d = true) (he : isContinuation e = true) :
    front (a :: b :: d :: e :: r)
      = .char (Char.ofNat (((a.toNat % 8 * 64 + payload b) * 64 + payload d) * 64 + payload e))
          4 := by
  simp [front, hw, hs, hd, he]

theorem toNat_lt_max (c : Char) : c.toNat < 0x110000 := by
  rcases c.valid with h | h
  · exact lt_trans h (by norm_num)
  · exact h.2

/-- No character lies among the surrogates. -/
theorem not_surrogate (c : Char) : ¬ (0xD800 ≤ c.toNat ∧ c.toNat ≤ 0xDFFF) := by
  rintro ⟨h, h'⟩
  rcases c.valid with hv | hv
  · have hv' : c.toNat < 0xD800 := hv
    omega
  · have hv' : 0xDFFF < c.toNat := hv.1
    omega

/-- **An encoded character is read back**, whatever comes after it. -/
theorem front_utf8EncodeChar (c : Char) (r : List UInt8) :
    front (String.utf8EncodeChar c ++ r) = .char c c.utf8Size := by
  have hmax := toNat_lt_max c
  have hsur := not_surrogate c
  rw [← String.length_utf8EncodeChar c]
  have hv : c.val.toNat = c.toNat := rfl
  have hc : Char.ofNat c.toNat = c := Char.ofNat_toNat c
  -- In each width the bytes are named by their values, and the value of the character is put
  -- together again from them.
  simp only [String.utf8EncodeChar, hv]
  split_ifs with h1 h2 h3
  · have ha := toNat_ofNat (n := c.toNat) (by omega)
    simp [front, leadWidth_of_lt (ha.trans_lt (by omega)), ha, hc]
  · set a := UInt8.ofNat (c.toNat / 64 % 0x20 + 0xc0)
    set b := UInt8.ofNat (c.toNat % 0x40 + 0x80)
    have ha : a.toNat = c.toNat / 64 % 0x20 + 0xc0 := toNat_ofNat (by omega)
    have hb : b.toNat = c.toNat % 0x40 + 0x80 := toNat_ofNat (by omega)
    have hval : a.toNat % 32 * 64 + payload b = c.toNat := by
      rw [payload, ha, hb]
      omega
    have hw : leadWidth a = 2 := leadWidth_of_two (by omega) (by omega)
    have hs : isSecond a b = true := by apply isSecond_of <;> omega
    simp only [List.cons_append, List.nil_append]
    rw [front_of_two hw hs, hval, hc]
    rfl
  · set a := UInt8.ofNat (c.toNat / 4096 % 0x10 + 0xe0)
    set b := UInt8.ofNat (c.toNat / 64 % 0x40 + 0x80)
    set d := UInt8.ofNat (c.toNat % 0x40 + 0x80)
    have ha : a.toNat = c.toNat / 4096 % 0x10 + 0xe0 := toNat_ofNat (by omega)
    have hb : b.toNat = c.toNat / 64 % 0x40 + 0x80 := toNat_ofNat (by omega)
    have hd : d.toNat = c.toNat % 0x40 + 0x80 := toNat_ofNat (by omega)
    have hval : (a.toNat % 16 * 64 + payload b) * 64 + payload d = c.toNat := by
      rw [payload, payload, ha, hb, hd]
      omega
    have hw : leadWidth a = 3 := leadWidth_of_three (by omega) (by omega)
    have hs : isSecond a b = true := by apply isSecond_of <;> omega
    have hd' : isContinuation d = true := (isContinuation_iff d).mpr (by omega)
    simp only [List.cons_append, List.nil_append]
    rw [front_of_three hw hs hd', hval, hc]
    rfl
  · set a := UInt8.ofNat (c.toNat / 262144 % 0x08 + 0xf0)
    set b := UInt8.ofNat (c.toNat / 4096 % 0x40 + 0x80)
    set d := UInt8.ofNat (c.toNat / 64 % 0x40 + 0x80)
    set e := UInt8.ofNat (c.toNat % 0x40 + 0x80)
    have ha : a.toNat = c.toNat / 262144 % 0x08 + 0xf0 := toNat_ofNat (by omega)
    have hb : b.toNat = c.toNat / 4096 % 0x40 + 0x80 := toNat_ofNat (by omega)
    have hd : d.toNat = c.toNat / 64 % 0x40 + 0x80 := toNat_ofNat (by omega)
    have he : e.toNat = c.toNat % 0x40 + 0x80 := toNat_ofNat (by omega)
    have hval : ((a.toNat % 8 * 64 + payload b) * 64 + payload d) * 64 + payload e = c.toNat := by
      rw [payload, payload, payload, ha, hb, hd, he]
      omega
    have hw : leadWidth a = 4 := leadWidth_of_four (by omega) (by omega)
    have hs : isSecond a b = true := by apply isSecond_of <;> omega
    have hd' : isContinuation d = true := (isContinuation_iff d).mpr (by omega)
    have he' : isContinuation e = true := (isContinuation_iff e).mpr (by omega)
    simp only [List.cons_append, List.nil_append]
    rw [front_of_four hw hs hd' he', hval, hc]
    rfl

/-! ### Whole texts -/

/-- Bytes that are still to be skipped do not matter. -/
theorem decodeLossyFrom_append (l r : List UInt8) :
    decodeLossyFrom l.length (l ++ r) = decodeLossyFrom 0 r := by
  induction l with
  | nil => rfl
  | cons b l ih =>
    rw [List.length_cons, List.cons_append, decodeLossyFrom]
    exact ih

theorem decodeLossyFrom_utf8EncodeChar (c : Char) (r : List UInt8) :
    decodeLossyFrom 0 (String.utf8EncodeChar c ++ r) = c :: decodeLossyFrom 0 r := by
  have hfront := front_utf8EncodeChar c r
  rw [← String.length_utf8EncodeChar c] at hfront
  rcases hl : String.utf8EncodeChar c with _ | ⟨b, l⟩
  · exact absurd hl String.utf8EncodeChar_ne_nil
  · rw [hl, List.cons_append] at hfront
    rw [List.cons_append, decodeLossyFrom, hfront]
    simp only [List.length_cons, Nat.add_sub_cancel]
    rw [decodeLossyFrom_append]

/-- **Lossy decoding loses nothing of a text.** -/
theorem decodeLossy_encode (s : String) : decodeLossy (encode s) = s := by
  have hchars : ∀ cs : List Char,
      decodeLossyFrom 0 (cs.flatMap String.utf8EncodeChar) = cs := by
    intro cs
    induction cs with
    | nil => rfl
    | cons c cs ih =>
      rw [List.flatMap_cons, decodeLossyFrom_utf8EncodeChar, ih]
  rw [decodeLossy, encode, hchars, String.ofList_toList]

/-- The same of strict decoding, which counts the bytes it has passed. -/
theorem decodeFrom_append (i : ℕ) (l r : List UInt8) :
    decodeFrom i l.length (l ++ r) = decodeFrom (i + l.length) 0 r := by
  induction l generalizing i with
  | nil => rfl
  | cons b l ih =>
    rw [List.length_cons, List.cons_append, decodeFrom, ih]
    congr 1
    omega

theorem decodeFrom_utf8EncodeChar (i : ℕ) (c : Char) (r : List UInt8) :
    decodeFrom i 0 (String.utf8EncodeChar c ++ r)
      = (decodeFrom (i + c.utf8Size) 0 r).map (c :: ·) := by
  have hfront := front_utf8EncodeChar c r
  rw [← String.length_utf8EncodeChar c] at hfront ⊢
  rcases hl : String.utf8EncodeChar c with _ | ⟨b, l⟩
  · exact absurd hl String.utf8EncodeChar_ne_nil
  · rw [hl, List.cons_append] at hfront
    rw [List.cons_append, decodeFrom, hfront]
    simp only [List.length_cons, Nat.add_sub_cancel]
    rw [decodeFrom_append, Nat.add_assoc, Nat.add_comm 1]

/-- **Strict decoding accepts every text**, and gives it back. -/
theorem decode_encode (s : String) : decode (encode s) = .ok s := by
  have hchars : ∀ (cs : List Char) (i : ℕ),
      decodeFrom i 0 (cs.flatMap String.utf8EncodeChar) = .ok cs := by
    intro cs
    induction cs with
    | nil => exact fun i => rfl
    | cons c cs ih =>
      intro i
      rw [List.flatMap_cons, decodeFrom_utf8EncodeChar, ih]
      rfl
  rw [decode, encode, hchars]
  exact congrArg Except.ok String.ofList_toList

theorem length_encode (s : String) : (encode s).length = s.utf8ByteSize := by
  have h : s.toList.utf8Encode.size = s.utf8ByteSize := by
    rw [String.utf8Encode_toList, String.size_toByteArray]
  rw [← h, List.utf8Encode, List.size_toByteArray, encode]

/-! ### Sizes -/

theorem foldl_utf8Size (cs : List Char) (n : ℕ) :
    cs.foldl (fun n c => n + c.utf8Size) n = n + size cs := by
  have hcons : ∀ (c : Char) (l : List Char),
      size (c :: l) = l.foldl (fun n c => n + c.utf8Size) (0 + c.utf8Size) := fun c l => rfl
  induction cs generalizing n with
  | nil => rfl
  | cons c cs ih =>
    rw [List.foldl_cons, hcons, ih, ih]
    omega

theorem size_append (cs ds : List Char) : size (cs ++ ds) = size cs + size ds := by
  rw [← foldl_utf8Size, size, size, List.foldl_append]

theorem size_cons (c : Char) (cs : List Char) : size (c :: cs) = c.utf8Size + size cs := by
  have hsingle : size [c] = c.utf8Size := Nat.zero_add _
  rw [← List.singleton_append, size_append, hsingle]

/-- The size of a text is the number of its bytes. -/
theorem length_flatMap_utf8EncodeChar (cs : List Char) :
    (cs.flatMap String.utf8EncodeChar).length = size cs := by
  induction cs with
  | nil => rfl
  | cons c cs ih =>
    rw [List.flatMap_cons, List.length_append, String.length_utf8EncodeChar, ih, size_cons]

/-- A text has no more characters than bytes. -/
theorem length_le_size (cs : List Char) : cs.length ≤ size cs := by
  induction cs with
  | nil => exact Nat.zero_le _
  | cons c cs ih =>
    have hc := c.utf8Size_pos
    rw [List.length_cons, size_cons]
    omega

/-- It has as many if each of them takes one byte. -/
theorem size_eq_length_iff (cs : List Char) :
    size cs = cs.length ↔ ∀ c ∈ cs, c.utf8Size = 1 := by
  induction cs with
  | nil => exact ⟨fun _ => nofun, fun _ => rfl⟩
  | cons c cs ih =>
    have hc := c.utf8Size_pos
    have hcs := length_le_size cs
    rw [List.forall_mem_cons, ← ih, size_cons, List.length_cons]
    omega

/-! ### Zero bytes -/

/-- The text without its characters U+0000. -/
def dropNul (s : String) : String := String.ofList (s.toList.filter (· ≠ '\x00'))

/-- Bytes below 80 are no part of another character. -/
theorem notMem_utf8EncodeChar {c : Char} {b : UInt8} (hb : b.toNat < 0x80) (h : c.toNat ≠ b.toNat) :
    b ∉ String.utf8EncodeChar c := by
  have hmax := toNat_lt_max c
  have hv : c.val.toNat = c.toNat := rfl
  have hne : ∀ {n : ℕ}, n ≠ b.toNat → n < 256 → b ≠ UInt8.ofNat n := by
    intro n hn hlt heq
    rw [heq, toNat_ofNat hlt] at hn
    exact hn rfl
  simp only [String.utf8EncodeChar, hv]
  -- A byte of a longer character is at least 80, the one byte of a shorter one is its value.
  split_ifs
  all_goals simp only [List.mem_cons, List.not_mem_nil, or_false, not_or]
  · exact hne h (by omega)
  · refine ⟨hne ?_ ?_, hne ?_ ?_⟩ <;> omega
  · refine ⟨hne ?_ ?_, hne ?_ ?_, hne ?_ ?_⟩ <;> omega
  · refine ⟨hne ?_ ?_, hne ?_ ?_, hne ?_ ?_, hne ?_ ?_⟩ <;> omega

/-- In the bytes of a text, such a byte is a character of its own. -/
theorem notMem_flatMap_utf8EncodeChar {c : Char} {b : UInt8} (hb : b.toNat < 0x80)
    (hc : c.toNat = b.toNat) {cs : List Char} (h : c ∉ cs) :
    b ∉ cs.flatMap String.utf8EncodeChar := by
  rw [List.mem_flatMap]
  rintro ⟨d, hd, hbd⟩
  refine notMem_utf8EncodeChar hb ?_ hbd
  intro heq
  obtain rfl : d = c := Char.toNat_inj.mp (heq.trans hc.symm)
  exact h hd

/-- Only U+0000 has a zero byte. -/
theorem zero_notMem_utf8EncodeChar {c : Char} (h : c ≠ '\x00') :
    (0 : UInt8) ∉ String.utf8EncodeChar c :=
  notMem_utf8EncodeChar (by decide) fun h0 => h (Char.toNat_inj.mp h0)

theorem filter_utf8EncodeChar (c : Char) :
    (String.utf8EncodeChar c).filter (· ≠ 0)
      = if c = '\x00' then [] else String.utf8EncodeChar c := by
  split_ifs with h
  · subst h
    rfl
  · rw [List.filter_eq_self]
    intro b hb
    have hb0 : b ≠ 0 := fun h0 => zero_notMem_utf8EncodeChar h (h0 ▸ hb)
    simpa using hb0

/-- **Dropping zero bytes is dropping U+0000**: nothing else of the text changes. -/
theorem filter_encode (s : String) : (encode s).filter (· ≠ 0) = encode (dropNul s) := by
  rw [encode, encode, dropNul, String.toList_ofList]
  induction s.toList with
  | nil => rfl
  | cons c cs ih =>
    rw [List.flatMap_cons, List.filter_append, filter_utf8EncodeChar, ih]
    by_cases h : c = '\x00'
    · simp [h]
    · simp [h]

end ShaderConvert.Utf8
