import Mathlib.Tactic
import ShaderConvert.Proofs.Utf8RoundTrip

/-
Lossy decoding, by its rule.

A list of bytes is read from the front.  A whole character is taken as it is; where there is none,
the longest piece that could still begin a character, or else one byte, is `Faulty` and stands for
one replacement sign.  `Lossy` says this without a decoder.

* `front_eq_char`, `faulty_of_bad`, `faulty_of_cut` — what the first look at a list of bytes tells
  is what stands in front of it;
* `Faulty.unique` — there is no second faulty piece in front;
* `lossy_iff` — lossy decoding gives the one text that the rule allows;
* `Lossy.nul_notMem` — where no byte is zero, no character is U+0000.

That a byte is too low or too high for its place is settled once, in the four lemmas
`utf8EncodeChar_of_*`; behind them only whole characters are spoken of.
-/
namespace ShaderConvert.Utf8

/-! ### Bytes that make up a character -/

theorem leadWidth_bounds (b : UInt8) :
    (leadWidth b = 1 → b.toNat < 0x80) ∧
    (leadWidth b = 2 → 0xC2 ≤ b.toNat ∧ b.toNat ≤ 0xDF) ∧
    (leadWidth b = 3 → 0xE0 ≤ b.toNat ∧ b.toNat ≤ 0xEF) ∧
    (leadWidth b = 4 → 0xF0 ≤ b.toNat ∧ b.toNat ≤ 0xF4) := by
  simp only [leadWidth, UInt8.lt_iff_toNat_lt, UInt8.le_iff_toNat_le, Bool.and_eq_true,
    decide_eq_true_eq, UInt8.reduceToNat]
  split_ifs <;> simp <;> omega

theorem isSecond_bounds {a b : UInt8} (h : isSecond a b = true) :
    0x80 ≤ b.toNat ∧ b.toNat ≤ 0xBF ∧ (a.toNat = 0xE0 → 0xA0 ≤ b.toNat) ∧
      (a.toNat = 0xED → b.toNat ≤ 0x9F) ∧ (a.toNat = 0xF0 → 0x90 ≤ b.toNat) ∧
      (a.toNat = 0xF4 → b.toNat ≤ 0x8F) := by
  simp only [isSecond, isContinuation, ← UInt8.toNat_inj, UInt8.le_iff_toNat_le,
    UInt8.reduceToNat] at h
  split_ifs at h <;> simp only [Bool.and_eq_true, decide_eq_true_eq] at h <;> omega

/-- Numbers beside the surrogates are those of characters. -/
theorem toNat_charOfNat {n : ℕ} (h : n < 0xD800 ∨ 0xDFFF < n ∧ n < 0x110000) :
    (Char.ofNat n).val.toNat = n := by
  have hvalid : n.isValidChar := h
  rw [Char.ofNat, dif_pos hvalid]
  rfl

theorem ofNat_eq {n : ℕ} {b : UInt8} (h : n = b.toNat) : UInt8.ofNat n = b := by
  rw [h, UInt8.ofNat_toNat]

theorem utf8EncodeChar_of_one {a : UInt8} (hw : leadWidth a = 1) :
    String.utf8EncodeChar (Char.ofNat a.toNat) = [a] := by
  have ha := (leadWidth_bounds a).1 hw
  rw [String.utf8EncodeChar, toNat_charOfNat (by omega), if_pos (by omega), UInt8.ofNat_toNat]

theorem utf8EncodeChar_of_two {a b : UInt8} (hw : leadWidth a = 2) (hs : isSecond a b = true) :
    String.utf8EncodeChar (Char.ofNat (a.toNat % 32 * 64 + payload b)) = [a, b] := by
  have ha := (leadWidth_bounds a).2.1 hw
  have hb := isSecond_bounds hs
  rw [String.utf8EncodeChar, payload, toNat_charOfNat (by omega), if_neg (by omega),
    if_pos (by omega), ofNat_eq (b := a) (by omega), ofNat_eq (b := b) (by omega)]

theorem utf8EncodeChar_of_three {a b d : UInt8} (hw : leadWidth a = 3) (hs : isSecond a b = true)
    (hd : isContinuation d = true) :
    String.utf8EncodeChar (Char.ofNat ((a.toNat % 16 * 64 + payload b) * 64 + payload d))
      = [a, b, d] := by
  have ha := (leadWidth_bounds a).2.2.1 hw
  have hb := isSecond_bounds hs
  rw [isContinuation_iff] at hd
  rw [String.utf8EncodeChar, payload, payload, toNat_charOfNat (by omega), if_neg (by omega),
    if_neg (by omega), if_pos (by omega), ofNat_eq (b := a) (by omega),
    ofNat_eq (b := b) (by omega), ofNat_eq (b := d) (by omega)]

theorem utf8EncodeChar_of_four {a b d e : UInt8} (hw : leadWidth a = 4) (hs : isSecond a b = true)
    (hd : isContinuation d = true) (he : isContinuation e = true) :
    String.utf8EncodeChar
        (Char.ofNat (((a.toNat % 8 * 64 + payload b) * 64 + payload d) * 64 + payload e))
      = [a, b, d, e] := by
  have ha := (leadWidth_bounds a).2.2.2 hw
  have hb := isSecond_bounds hs
  rw [isContinuation_iff] at hd he
  rw [String.utf8EncodeChar, payload, payload, payload, toNat_charOfNat (by omega),
    if_neg (by omega), if_neg (by omega), if_neg (by omega), ofNat_eq (b := a) (by omega),
    ofNat_eq (b := b) (by omega), ofNat_eq (b := d) (by omega), ofNat_eq (b := e) (by omega)]

/-- **A character at the front stands there**, byte for byte. -/
theorem front_eq_char {bs : List UInt8} {c : Char} {w : ℕ} :
    front bs = .char c w →
      ∃ r, bs = String.utf8EncodeChar c ++ r ∧ w = (String.utf8EncodeChar c).length := by
  fun_cases front bs with
  | case2 a r hw =>
    rintro ⟨⟩
    rw [utf8EncodeChar_of_one hw]
    exact ⟨r, rfl, rfl⟩
  | case4 a b r hw hs =>
    rintro ⟨⟩
    rw [utf8EncodeChar_of_two hw hs]
    exact ⟨r, rfl, rfl⟩
  | case8 a b hw hs d r hd =>
    rintro ⟨⟩
    rw [utf8EncodeChar_of_three hw hs hd]
    exact ⟨r, rfl, rfl⟩
  | case14 a b hw hs d hd e r he =>
    rintro ⟨⟩
    rw [utf8EncodeChar_of_four hw hs hd he]
    exact ⟨r, rfl, rfl⟩
  | _ => rintro ⟨⟩

theorem front_eq_done {bs : List UInt8} : front bs = .done → bs = [] := by
  fun_cases front bs with
  | case1 => exact fun _ => rfl
  | _ => rintro ⟨⟩

/-! ### Faulty pieces -/

/-- Some character begins with these bytes. -/
def Opens (p : List UInt8) : Prop := ∃ c : Char, p <+: String.utf8EncodeChar c

/-- Bytes that may be faulty as one: a single byte, or more that begin a character. -/
def IsPiece (p : List UInt8) : Prop := p.length = 1 ∨ p ≠ [] ∧ Opens p

/-- In front of `r` stands no character but the faulty piece `p`, which cannot be longer. -/
structure Faulty (p r : List UInt8) : Prop where
  no_char : ∀ c : Char, ¬ String.utf8EncodeChar c <+: p ++ r
  isPiece : IsPiece p
  longest : ∀ q, q <+: p ++ r → Opens q → q.length ≤ p.length

theorem IsPiece.ne_nil {p : List UInt8} (h : IsPiece p) : p ≠ [] := by
  rintro rfl
  rcases h with h | h
  · cases h
  · exact h.1 rfl

theorem Opens.isPiece {a : UInt8} {p : List UInt8} (h : Opens (a :: p)) : IsPiece (a :: p) :=
  .inr ⟨List.cons_ne_nil a p, h⟩

/-! A piece of a longer character is completed by the lowest continuation byte. -/

theorem opens_of_three {a b : UInt8} (hw : leadWidth a = 3) (hs : isSecond a b = true) :
    Opens [a, b] :=
  ⟨_, [0x80], (utf8EncodeChar_of_three hw hs (by decide)).symm⟩

theorem opens_two_of_four {a b : UInt8} (hw : leadWidth a = 4) (hs : isSecond a b = true) :
    Opens [a, b] :=
  ⟨_, [0x80, 0x80], (utf8EncodeChar_of_four hw hs (by decide) (by decide)).symm⟩

theorem opens_three_of_four {a b d : UInt8} (hw : leadWidth a = 4) (hs : isSecond a b = true)
    (hd : isContinuation d = true) : Opens [a, b, d] :=
  ⟨_, [0x80], (utf8EncodeChar_of_four hw hs hd (by decide)).symm⟩

/-- Bytes are refused by the one behind the piece, whatever follows it. -/
theorem front_eq_bad {bs : List UInt8} {w : ℕ} :
    front bs = .bad w → ∃ p r, bs = p ++ r ∧ p.length = w ∧ IsPiece p ∧
      ∀ b x y, r = b :: x → front (p ++ b :: y) = .bad w := by
  fun_cases front bs with
  | case5 a b r hw hs | case10 a b r hw hs | case17 a b r hw hs =>
    rintro ⟨⟩
    refine ⟨[a], b :: r, rfl, rfl, .inl rfl, ?_⟩
    rintro _ _ y ⟨⟩
    simp [front, hw, hs]
  | case9 a b hw hs d r hd =>
    rintro ⟨⟩
    refine ⟨[a, b], d :: r, rfl, rfl, (opens_of_three hw hs).isPiece, ?_⟩
    rintro _ _ y ⟨⟩
    simp [front, hw, hs, hd]
  | case16 a b hw hs d r hd =>
    rintro ⟨⟩
    refine ⟨[a, b], d :: r, rfl, rfl, (opens_two_of_four hw hs).isPiece, ?_⟩
    rintro _ _ y ⟨⟩
    simp [front, hw, hs, hd]
  | case15 a b hw hs d hd e r he =>
    rintro ⟨⟩
    refine ⟨[a, b, d], e :: r, rfl, rfl, (opens_three_of_four hw hs hd).isPiece, ?_⟩
    rintro _ _ y ⟨⟩
    simp [front, hw, hs, hd, he]
  | case18 a r h1 _ h2 _ h3 _ h4 =>
    -- no character begins with `a`
    rintro ⟨⟩
    refine ⟨[a], r, rfl, rfl, .inl rfl, ?_⟩
    rintro b x y rfl
    have hw2 : leadWidth a ≠ 2 := fun h => h2 b x h rfl
    have hw3 : leadWidth a ≠ 3 := fun h => h3 b x h rfl
    have hw4 : leadWidth a ≠ 4 := fun h => h4 b x h rfl
    simp [front, hw2, hw3, hw4]
  | _ => rintro ⟨⟩

theorem front_eq_cut {bs : List UInt8} : front bs = .cut → IsPiece bs := by
  fun_cases front bs with
  | case3 a | case6 a | case11 a => exact fun _ => .inl rfl
  | case7 a b hw hs => exact fun _ => (opens_of_three hw hs).isPiece
  | case12 a b hw hs => exact fun _ => (opens_two_of_four hw hs).isPiece
  | case13 a b hw hs d hd => exact fun _ => (opens_three_of_four hw hs hd).isPiece
  | _ => rintro ⟨⟩

theorem no_char_of_front {bs : List UInt8} (h : ∀ c w, front bs ≠ .char c w) (c : Char) :
    ¬ String.utf8EncodeChar c <+: bs := by
  rintro ⟨r, rfl⟩
  exact h _ _ (front_utf8EncodeChar c r)

/-- **Refused bytes are a faulty piece.** -/
theorem faulty_of_bad {bs : List UInt8} {w : ℕ} (h : front bs = .bad w) :
    ∃ p r, bs = p ++ r ∧ p.length = w ∧ Faulty p r := by
  obtain ⟨p, r, rfl, hlen, hpiece, hrefused⟩ := front_eq_bad h
  refine ⟨p, r, rfl, hlen, no_char_of_front (by simp [h]), hpiece, ?_⟩
  rintro q hq ⟨c, hc⟩
  by_contra! hlong
  -- `q` has the byte behind the piece as well, so the character it begins would be refused
  obtain ⟨s, rfl⟩ := List.prefix_of_prefix_length_le (List.prefix_append p r) hq hlong.le
  cases s with
  | nil => simp at hlong
  | cons b s =>
    obtain ⟨x, rfl⟩ := (List.prefix_append_right_inj p).mp hq
    obtain ⟨y, hy⟩ := hc
    rw [List.append_assoc, List.cons_append] at hy
    have hchar := front_utf8EncodeChar c []
    rw [List.append_nil, ← hy, hrefused b (s ++ x) (s ++ y) rfl] at hchar
    cases hchar

/-- **Bytes that end inside a character are a faulty piece**, all of them. -/
theorem faulty_of_cut {bs : List UInt8} (h : front bs = .cut) : Faulty bs [] := by
  refine ⟨no_char_of_front (by simp [h]), front_eq_cut h, fun q hq _ => ?_⟩
  rw [List.append_nil] at hq
  exact hq.length_le

/-- **There is only one faulty piece** in front. -/
theorem Faulty.unique {p q r s : List UInt8} (hp : Faulty p r) (hq : Faulty q s)
    (h : p ++ r = q ++ s) : p = q ∧ r = s := by
  have hle : ∀ {p q r s : List UInt8}, Faulty p r → Faulty q s → p ++ r = q ++ s →
      p.length ≤ q.length := by
    intro p q r s hp hq h
    rcases hp.isPiece with hone | ⟨-, hopens⟩
    · rw [hone]
      exact List.length_pos_iff.mpr hq.isPiece.ne_nil
    · exact hq.longest p (h ▸ List.prefix_append p r) hopens
  exact List.append_inj h (le_antisymm (hle hp hq h) (hle hq hp h.symm))

/-- **Something stands in front of every byte list** that is not empty. -/
theorem exists_front_piece {bs : List UInt8} (h : bs ≠ []) :
    (∃ c r, bs = String.utf8EncodeChar c ++ r) ∨ ∃ p r, bs = p ++ r ∧ Faulty p r := by
  cases hf : front bs with
  | done => exact absurd (front_eq_done hf) h
  | char c w =>
    obtain ⟨r, heq, -⟩ := front_eq_char hf
    exact .inl ⟨c, r, heq⟩
  | bad w =>
    obtain ⟨p, r, heq, -, hfaulty⟩ := faulty_of_bad hf
    exact .inr ⟨p, r, heq, hfaulty⟩
  | cut => exact .inr ⟨bs, [], (List.append_nil bs).symm, faulty_of_cut hf⟩

/-! ### Whole byte lists -/

/-- The text that a list of bytes stands for: its characters, and a replacement sign for each faulty
piece between them. -/
inductive Lossy : List UInt8 → List Char → Prop where
  | nil : Lossy [] []
  | char {r : List UInt8} {cs : List Char} (c : Char) :
      Lossy r cs → Lossy (String.utf8EncodeChar c ++ r) (c :: cs)
  | fault {p r : List UInt8} {cs : List Char} :
      Faulty p r → Lossy r cs → Lossy (p ++ r) (replacement :: cs)

/-- After the first byte of a piece the others are skipped. -/
theorem decodeLossyFrom_of_append {b : UInt8} {r p x : List UInt8} (hp : p ≠ [])
    (h : b :: r = p ++ x) : decodeLossyFrom (p.length - 1) r = decodeLossyFrom 0 x := by
  obtain ⟨_, p, rfl⟩ := List.exists_cons_of_ne_nil hp
  obtain ⟨rfl, rfl⟩ := List.cons.inj h
  exact decodeLossyFrom_append p x

theorem decodeLossyFrom_of_faulty {p r : List UInt8} (h : Faulty p r) :
    decodeLossyFrom 0 (p ++ r) = replacement :: decodeLossyFrom 0 r := by
  have hne := h.isPiece.ne_nil
  obtain ⟨b, t, hbt⟩ : ∃ b t, p ++ r = b :: t :=
    List.exists_cons_of_ne_nil (List.append_ne_nil_of_left_ne_nil hne r)
  rw [hbt, decodeLossyFrom]
  cases hf : front (b :: t) with
  | done => cases front_eq_done hf
  | char c w =>
    obtain ⟨x, heq, -⟩ := front_eq_char hf
    exact absurd ⟨x, (hbt.trans heq).symm⟩ (h.no_char c)
  | bad w =>
    obtain ⟨q, s, heq, rfl, hq⟩ := faulty_of_bad hf
    obtain ⟨rfl, rfl⟩ := h.unique hq (hbt.trans heq)
    exact congrArg _ (decodeLossyFrom_of_append hne hbt.symm)
  | cut =>
    obtain ⟨-, rfl⟩ := h.unique (faulty_of_cut hf) (by rw [hbt, List.append_nil])
    rfl

theorem lossy_decodeLossyFrom (bs : List UInt8) : Lossy bs (decodeLossyFrom 0 bs) := by
  -- by the number of bytes: in front of the rest there is always at least one
  induction hn : bs.length using Nat.strong_induction_on generalizing bs with
  | _ n ih =>
    have hrest : ∀ {p r : List UInt8}, p ≠ [] → bs = p ++ r → Lossy r (decodeLossyFrom 0 r) := by
      rintro p r hp rfl
      have hpos := List.length_pos_iff.mpr hp
      rw [List.length_append] at hn
      exact ih r.length (by omega) r rfl
    by_cases hbs : bs = []
    · rw [hbs]
      exact .nil
    rcases exists_front_piece hbs with ⟨c, r, heq⟩ | ⟨p, r, heq, hfaulty⟩
    · have hlossy := hrest String.utf8EncodeChar_ne_nil heq
      rw [heq, decodeLossyFrom_utf8EncodeChar]
      exact .char c hlossy
    · have hlossy := hrest hfaulty.isPiece.ne_nil heq
      rw [heq, decodeLossyFrom_of_faulty hfaulty]
      exact .fault hfaulty hlossy

theorem Lossy.eq_decodeLossyFrom {bs : List UInt8} {cs : List Char} (h : Lossy bs cs) :
    cs = decodeLossyFrom 0 bs := by
  induction h with
  | nil => rfl
  | char c _ ih => rw [decodeLossyFrom_utf8EncodeChar, ← ih]
  | fault hfaulty _ ih => rw [decodeLossyFrom_of_faulty hfaulty, ← ih]

/-- **Lossy decoding follows the rule**, which allows one text only. -/
theorem lossy_iff (bs : List UInt8) (s : String) : Lossy bs s.toList ↔ s = decodeLossy bs := by
  rw [decodeLossy, ← String.toList_inj, String.toList_ofList]
  exact ⟨Lossy.eq_decodeLossyFrom, fun h => h ▸ lossy_decodeLossyFrom bs⟩

/-- U+0000 comes from a zero byte only. -/
theorem Lossy.nul_notMem {bs : List UInt8} {cs : List Char} (h : Lossy bs cs) (h0 : 0 ∉ bs) :
    '\x00' ∉ cs := by
  induction h with
  | nil => exact List.not_mem_nil
  | char c _ ih =>
    rw [List.mem_append, not_or] at h0
    rw [List.mem_cons, not_or]
    refine ⟨?_, ih h0.2⟩
    rintro rfl
    exact h0.1 (by decide)
  | fault _ _ ih =>
    rw [List.mem_append, not_or] at h0
    rw [List.mem_cons, not_or]
    exact ⟨by decide, ih h0.2⟩

end ShaderConvert.Utf8
