import Mathlib.Tactic
import ShaderConvert.Words

/-
Words and their bytes, there and back.

* `ofBytes_toBytes`, `toBytes_ofBytes` — the bytes of words give these words back, and whole words
  the bytes they were read from;
* `swap_swap` — turning a word around twice changes nothing;
* `normalize_map_swap` — a module in the other byte order is turned around as a whole;
* `readBytes_toBytes`, `readBytes_toBytesReversed` — both byte orders of a module are read as the
  same words;
* `readBytes_inverse` — reading bytes and writing words undo each other, up to the byte order.

A word is compared with its bytes as a number (`toNat_ofFourBytes`), so that the four places are
left to `omega`.
-/
namespace ShaderConvert.Words

/-! ### One word -/

theorem toNat_shiftLeft_toUInt32 (b : UInt8) {n : UInt32} (hn : n.toNat ≤ 24) :
    (b.toUInt32 <<< n).toNat = b.toNat <<< n.toNat := by
  have hb := b.toNat_lt
  have hlt : b.toNat <<< n.toNat < 2 ^ 32 := by
    rw [Nat.shiftLeft_eq]
    calc b.toNat * 2 ^ n.toNat
        ≤ b.toNat * 2 ^ 24 := Nat.mul_le_mul_left _ (Nat.pow_le_pow_right (by norm_num) hn)
      _ < 2 ^ 32 := by omega
  rw [UInt32.toNat_shiftLeft, UInt8.toNat_toUInt32, Nat.mod_eq_of_lt (by omega : n.toNat < 32),
    Nat.mod_eq_of_lt hlt]

/-- The number that four bytes stand for, the least significant first. -/
theorem toNat_ofFourBytes (a b c d : UInt8) :
    (ofFourBytes a b c d).toNat
      = a.toNat + 256 * b.toNat + 65536 * c.toNat + 16777216 * d.toNat := by
  have ha := a.toNat_lt
  have hb := b.toNat_lt
  have hc := c.toNat_lt
  rw [ofFourBytes, UInt32.toNat_or, UInt32.toNat_or, UInt32.toNat_or,
    toNat_shiftLeft_toUInt32 b (by decide), toNat_shiftLeft_toUInt32 c (by decide),
    toNat_shiftLeft_toUInt32 d (by decide), UInt8.toNat_toUInt32]
  simp only [UInt32.reduceToNat]
  -- The parts do not overlap, so each `|||` adds.
  rw [Nat.or_comm, Nat.or_comm _ (c.toNat <<< 16), Nat.or_comm _ (b.toNat <<< 8),
    ← Nat.shiftLeft_add_eq_or_of_lt (by omega : a.toNat < 2 ^ 8),
    ← Nat.shiftLeft_add_eq_or_of_lt (by rw [Nat.shiftLeft_eq]; omega :
      b.toNat <<< 8 + a.toNat < 2 ^ 16),
    ← Nat.shiftLeft_add_eq_or_of_lt (by rw [Nat.shiftLeft_eq, Nat.shiftLeft_eq]; omega :
      c.toNat <<< 16 + (b.toNat <<< 8 + a.toNat) < 2 ^ 24)]
  simp only [Nat.shiftLeft_eq]
  omega

/-- The byte of a word that begins at bit `n`. -/
theorem toNat_toUInt8_shiftRight (w : Word) {n : UInt32} (hn : n.toNat < 32) :
    (w >>> n).toUInt8.toNat = w.toNat / 2 ^ n.toNat % 256 := by
  rw [UInt32.toNat_toUInt8, UInt32.toNat_shiftRight, Nat.mod_eq_of_lt hn, Nat.shiftRight_eq_div_pow]

/-- **A word is put together again from its bytes.** -/
theorem ofFourBytes_bytes (w : Word) :
    ofFourBytes w.toUInt8 (w >>> 8).toUInt8 (w >>> 16).toUInt8 (w >>> 24).toUInt8 = w := by
  have hw := w.toNat_lt
  rw [← UInt32.toNat_inj, toNat_ofFourBytes, toNat_toUInt8_shiftRight w (by decide),
    toNat_toUInt8_shiftRight w (by decide), toNat_toUInt8_shiftRight w (by decide),
    UInt32.toNat_toUInt8]
  simp only [UInt32.reduceToNat]
  omega

/-- The bytes of a word are the ones it was put together from. -/
theorem bytesOf_ofFourBytes (a b c d : UInt8) : bytesOf (ofFourBytes a b c d) = [a, b, c, d] := by
  have ha := a.toNat_lt
  have hb := b.toNat_lt
  have hc := c.toNat_lt
  have hd := d.toNat_lt
  have hlow : (ofFourBytes a b c d).toUInt8 = a := by
    rw [← UInt8.toNat_inj, UInt32.toNat_toUInt8, toNat_ofFourBytes]
    omega
  have hbyte : ∀ {n : UInt32} {e : UInt8}, n.toNat < 32 →
      (ofFourBytes a b c d).toNat / 2 ^ n.toNat % 256 = e.toNat →
      (ofFourBytes a b c d >>> n).toUInt8 = e := by
    intro n e hn he
    rw [← UInt8.toNat_inj, toNat_toUInt8_shiftRight _ hn, he]
  rw [bytesOf, hlow, hbyte (e := b) (by decide), hbyte (e := c) (by decide),
    hbyte (e := d) (by decide)]
  all_goals
    rw [toNat_ofFourBytes]
    simp only [UInt32.reduceToNat]
    omega

/-- Turning a word around turns its bytes around. -/
theorem bytesOf_swap (w : Word) : bytesOf (swap w) = (bytesOf w).reverse := by
  rw [swap, bytesOf_ofFourBytes]
  rfl

theorem bytesOf_injective {v w : Word} (h : bytesOf v = bytesOf w) : v = w := by
  simp only [bytesOf, List.cons.injEq, and_true] at h
  obtain ⟨h0, h1, h2, h3⟩ := h
  rw [← ofFourBytes_bytes v, ← ofFourBytes_bytes w, h0, h1, h2, h3]

theorem swap_swap (w : Word) : swap (swap w) = w := by
  apply bytesOf_injective
  rw [bytesOf_swap, bytesOf_swap, List.reverse_reverse]

/-- The two magic numbers are each other's turned form. -/
theorem swap_magic : swap magic = swappedMagic := by decide

theorem swap_eq_magic_iff (w : Word) : swap w = magic ↔ w = swappedMagic := by
  rw [← swap_magic]
  constructor
  · intro h
    rw [← h, swap_swap]
  · rintro rfl
    exact swap_swap magic

/-! ### Lists of words -/

theorem toBytes_cons (w : Word) (ws : List Word) : toBytes (w :: ws) = bytesOf w ++ toBytes ws :=
  rfl

theorem toBytes_append (vs ws : List Word) : toBytes (vs ++ ws) = toBytes vs ++ toBytes ws :=
  List.flatMap_append

theorem length_toBytes (ws : List Word) : (toBytes ws).length = 4 * ws.length := by
  induction ws with
  | nil => rfl
  | cons w ws ih =>
    rw [toBytes_cons, List.length_append, ih, List.length_cons]
    show 4 + 4 * ws.length = _
    omega

/-- **Words are read back from their bytes.** -/
theorem ofBytes_toBytes (ws : List Word) : ofBytes (toBytes ws) = ws := by
  induction ws with
  | nil => rfl
  | cons w ws ih =>
    rw [toBytes_cons]
    show ofFourBytes _ _ _ _ :: ofBytes (toBytes ws) = _
    rw [ofFourBytes_bytes, ih]

/-- **Whole words give back the bytes** they were read from. -/
theorem toBytes_ofBytes {bs : List UInt8} (h : 4 ∣ bs.length) : toBytes (ofBytes bs) = bs := by
  fun_induction ofBytes bs with
  | case1 a b c d r ih =>
    have hr : 4 ∣ r.length := by
      simp only [List.length_cons] at h
      omega
    rw [toBytes_cons, bytesOf_ofFourBytes, ih hr]
    rfl
  | case2 bs hshort =>
    -- one, two or three bytes are no whole word
    rcases bs with _ | ⟨a, _ | ⟨b, _ | ⟨c, _ | ⟨d, r⟩⟩⟩⟩
    · rfl
    · simp at h
    · simp at h
    · simp at h
    · exact absurd rfl (hshort a b c d r)

/-- The bytes of a word are in front if and only if it is the first word that is read. -/
theorem bytesOf_prefix_iff (w : Word) (bs : List UInt8) :
    bytesOf w <+: bs ↔ (ofBytes bs).head? = some w := by
  constructor
  · rintro ⟨r, rfl⟩
    rw [bytesOf, List.cons_append, List.cons_append, List.cons_append, List.cons_append, ofBytes,
      ofFourBytes_bytes, List.head?_cons]
  · intro h
    unfold ofBytes at h
    split at h
    · next a b c d r =>
      rw [List.head?_cons, Option.some_inj] at h
      rw [← h, bytesOf_ofFourBytes]
      exact ⟨r, rfl⟩
    · cases h

/-- The bytes of words, the most significant byte of each first. -/
def toBytesReversed (ws : List Word) : List UInt8 := ws.flatMap fun w => (bytesOf w).reverse

theorem toBytes_map_swap (ws : List Word) : toBytes (ws.map swap) = toBytesReversed ws := by
  rw [toBytes, List.flatMap_map, toBytesReversed]
  simp only [bytesOf_swap]

/-- Bytes with each group of four turned around. -/
def reverseGroups : List UInt8 → List UInt8
  | a :: b :: c :: d :: r => d :: c :: b :: a :: reverseGroups r
  | r => r

theorem reverseGroups_toBytes (ws : List Word) :
    reverseGroups (toBytes ws) = toBytesReversed ws := by
  induction ws with
  | nil => rfl
  | cons w ws ih =>
    show _ :: _ :: _ :: _ :: reverseGroups (toBytes ws) = _
    rw [ih]
    rfl

/-! ### Byte order -/

theorem normalize_of_head {ws : List Word} (h : ws.head? ≠ some swappedMagic) :
    normalize ws = ws := by
  rw [normalize, if_neg h]

/-- A module in the byte order of this machine is left alone. -/
theorem normalize_of_magic {ws : List Word} (h : ws.head? = some magic) : normalize ws = ws := by
  apply normalize_of_head
  rw [h]
  decide

/-- **A module in the other byte order is turned around.** -/
theorem normalize_map_swap {ws : List Word} (h : ws.head? = some magic) :
    normalize (ws.map swap) = ws := by
  have hhead : (ws.map swap).head? = some swappedMagic := by
    rw [List.head?_map, h, Option.map_some, swap_magic]
  rw [normalize, if_pos hhead, List.map_map]
  simp only [Function.comp_def, swap_swap, List.map_id']

theorem length_normalize (ws : List Word) : (normalize ws).length = ws.length := by
  rw [normalize]
  split_ifs
  · exact List.length_map swap
  · rfl

/-- After decoding there is one magic number where before there were two. -/
theorem head_normalize_eq_magic_iff (ws : List Word) :
    (normalize ws).head? = some magic ↔ ws.head? = some magic ∨ ws.head? = some swappedMagic := by
  by_cases hs : ws.head? = some swappedMagic
  · have hswap : swap swappedMagic = magic := (swap_eq_magic_iff swappedMagic).mpr rfl
    rw [normalize, if_pos hs, List.head?_map, hs, Option.map_some, hswap]
    exact ⟨fun _ => .inr rfl, fun _ => rfl⟩
  · rw [normalize, if_neg hs]
    exact ⟨.inl, fun h => h.resolve_right hs⟩

theorem head_normalize_ne_swappedMagic (ws : List Word) :
    (normalize ws).head? ≠ some swappedMagic := by
  by_cases hs : ws.head? = some swappedMagic
  · rw [(head_normalize_eq_magic_iff ws).mpr (.inr hs)]
    decide
  · rwa [normalize_of_head hs]

theorem normalize_eq_self_iff (ws : List Word) :
    normalize ws = ws ↔ ws.head? ≠ some swappedMagic := by
  refine ⟨fun h => ?_, normalize_of_head⟩
  rw [← h]
  exact head_normalize_ne_swappedMagic ws

/-! ### Reading bytes -/

theorem readBytes_eq_ok_iff {bs : List UInt8} {ws : List Word} :
    readBytes bs = .ok ws ↔ 4 ∣ bs.length ∧ normalize (ofBytes bs) = ws := by
  rw [readBytes, Nat.dvd_iff_mod_eq_zero]
  split_ifs with h
  · rw [Except.ok.injEq]
    exact ⟨fun hw => ⟨h, hw⟩, And.right⟩
  · constructor
    · intro hw
      cases hw
    · exact fun hw => absurd hw.1 h

theorem readBytes_toBytes (ws : List Word) : readBytes (toBytes ws) = .ok (normalize ws) := by
  have hlen : (toBytes ws).length % 4 = 0 := by
    rw [length_toBytes]
    omega
  rw [readBytes, if_pos hlen, ofBytes_toBytes]

theorem readBytes_toBytesReversed {ws : List Word} (h : ws.head? = some magic) :
    readBytes (toBytesReversed ws) = .ok ws := by
  rw [← toBytes_map_swap, readBytes_toBytes, normalize_map_swap h]

/-- The bytes of what is read are the bytes given, or these in the other order. -/
theorem toBytes_normalize_ofBytes {bs : List UInt8} (h : 4 ∣ bs.length) :
    toBytes (normalize (ofBytes bs))
      = if bytesOf swappedMagic <+: bs then reverseGroups bs else bs := by
  rw [normalize]
  simp only [bytesOf_prefix_iff]
  split_ifs
  · rw [toBytes_map_swap, ← reverseGroups_toBytes, toBytes_ofBytes h]
  · exact toBytes_ofBytes h

/-- **Bytes and words are inverse up to byte order.**  Bytes can be read if and only if they are
whole words.  Words come back from their bytes normalized, which leaves exactly those alone that do
not begin with the reversed magic number; bytes come back from the words read, with each group of
four turned around if they begin with the bytes of that number.  What is normalized stays as it is,
is as long as before, never begins with the reversed magic number, and is the module itself if all
words of a module are turned around. -/
theorem readBytes_inverse (bs : List UInt8) (ws : List Word) :
    ((∃ vs, readBytes bs = .ok vs) ↔ 4 ∣ bs.length) ∧
    (readBytes (toBytes ws) = .ok (normalize ws) ∧
      (normalize ws = ws ↔ ws.head? ≠ some 0x03022307)) ∧
    (4 ∣ bs.length → ∃ vs, readBytes bs = .ok vs ∧
      (¬ [0x07, 0x23, 0x02, 0x03] <+: bs → toBytes vs = bs) ∧
      ([0x07, 0x23, 0x02, 0x03] <+: bs → toBytes vs = reverseGroups bs)) ∧
    normalize (normalize ws) = normalize ws ∧
    (normalize ws).length = ws.length ∧
    (normalize ws).head? ≠ some 0x03022307 ∧
    (ws.head? = some 0x07230203 → normalize (ws.map swap) = ws) := by
  have hread : 4 ∣ bs.length → readBytes bs = .ok (normalize (ofBytes bs)) :=
    fun h => readBytes_eq_ok_iff.mpr ⟨h, rfl⟩
  have hswapped := head_normalize_ne_swappedMagic ws
  refine ⟨⟨fun ⟨vs, hvs⟩ => (readBytes_eq_ok_iff.mp hvs).1, fun h => ⟨_, hread h⟩⟩,
    ⟨readBytes_toBytes ws, normalize_eq_self_iff ws⟩, fun h => ⟨_, hread h, ?_, ?_⟩,
    normalize_of_head hswapped, length_normalize ws, hswapped, normalize_map_swap⟩
  · intro hfirst
    rw [toBytes_normalize_ofBytes h]
    exact if_neg hfirst
  · intro hfirst
    rw [toBytes_normalize_ofBytes h]
    exact if_pos hfirst

/-- The first two words of a module, in both byte orders. -/
theorem readBytes_inverse_bothOrders :
    (∃ vs, readBytes [0x03, 0x02, 0x23, 0x07, 0, 0, 1, 0] = .ok vs ∧
      toBytes vs = [0x03, 0x02, 0x23, 0x07, 0, 0, 1, 0]) ∧
    (∃ vs, readBytes [0x07, 0x23, 0x02, 0x03, 0, 1, 0, 0] = .ok vs ∧
      toBytes vs = [0x03, 0x02, 0x23, 0x07, 0, 0, 1, 0]) ∧
    normalize ([magic, 0x00010000].map swap) = [magic, 0x00010000] := by
  obtain ⟨-, -, hnative, -, -, -, hwords⟩ :=
    readBytes_inverse [0x03, 0x02, 0x23, 0x07, 0, 0, 1, 0] [magic, 0x00010000]
  obtain ⟨-, -, hreversed, -⟩ := readBytes_inverse [0x07, 0x23, 0x02, 0x03, 0, 1, 0, 0] []
  obtain ⟨vs, hvs, hkept, -⟩ := hnative (by decide)
  obtain ⟨us, hus, -, hturned⟩ := hreversed (by decide)
  exact ⟨⟨vs, hvs, hkept (by decide)⟩, ⟨us, hus, hturned (by decide)⟩, hwords rfl⟩

end ShaderConvert.Words
