import Mathlib.Tactic
import ShaderConvert.Json.Skip

/-
The texts of JSON values.

A value is written with blanks between its signs, with its members in any order, and with each
character of a string plain or in one of its escapes.  So one value has many texts, and the grammar is
a relation: `Spells (.value v) cs rest` says that `cs` begins with a text of `v`, behind which `rest`
is left.  The relations for its parts have the same two arguments at their end:

* `Blanks` and `Digits` — runs of signs of one kind;
* `Figures` — numbers, with their value if it is written by digits alone;
* `Quoted` — strings behind their opening quote, with their characters if someone asks for them;
* `Key`, `Separator` — what stands before a value inside an object or a list.

`Delimits rest` says what `rest` has to begin with, so that a number does not go on there; inside a
list or an object this is always so (`Spells.delimits`).
-/
namespace ShaderConvert.Json

open Reader (isSpace isDigit)

/-! ### Runs of signs -/

/-- Any number of signs that pass a test. -/
inductive Run (p : Char → Bool) : List Char → List Char → Prop where
  | none (rest : List Char) : Run p rest rest
  | more {c : Char} {cs rest : List Char} (hc : p c = true) (h : Run p cs rest) :
      Run p (c :: cs) rest

def Blanks : List Char → List Char → Prop := Run isSpace

/-- At least one digit. -/
inductive Digits : List Char → List Char → Prop where
  | mk {c : Char} {cs rest : List Char} (hc : isDigit c = true) (h : Run isDigit cs rest) :
      Digits (c :: cs) rest

/-! ### Numbers -/

/-- The digits before the point: none of them stands behind a leading zero. -/
inductive IntegerPart : List Char → List Char → Prop where
  | zero (rest : List Char) : IntegerPart ('0' :: rest) rest
  | digits {c : Char} {cs rest : List Char} (hc : isDigit c = true) (hz : c ≠ '0')
      (h : Run isDigit cs rest) : IntegerPart (c :: cs) rest

/-- The point and the digits behind it, if there are any. -/
inductive FractionPart : List Char → List Char → Prop where
  | absent (rest : List Char) : FractionPart rest rest
  | present {cs rest : List Char} (h : Digits cs rest) : FractionPart ('.' :: cs) rest

/-- The exponent, if there is one. -/
inductive ExponentPart : List Char → List Char → Prop where
  | absent (rest : List Char) : ExponentPart rest rest
  | unsigned {e : Char} {cs rest : List Char} (he : e = 'e' ∨ e = 'E') (h : Digits cs rest) :
      ExponentPart (e :: cs) rest
  | signed {e s : Char} {cs rest : List Char} (he : e = 'e' ∨ e = 'E') (hs : s = '+' ∨ s = '-')
      (h : Digits cs rest) : ExponentPart (e :: s :: cs) rest

/-- A number without its sign. -/
inductive Unsigned : List Char → List Char → Prop where
  | mk {cs a b rest : List Char} (hi : IntegerPart cs a) (hf : FractionPart a b)
      (he : ExponentPart b rest) : Unsigned cs rest

/-- A number; its value is known where it is written by digits alone. -/
inductive Figures : Option ℕ → List Char → List Char → Prop where
  | natural (n : ℕ) (rest : List Char) : Figures (some n) (Nat.toDigits 10 n ++ rest) rest
  | positive {cs rest : List Char} (h : Unsigned cs rest) : Figures none cs rest
  | negative {cs rest : List Char} (h : Unsigned cs rest) : Figures none ('-' :: cs) rest

/-! ### Strings -/

/-- A hexadecimal digit, small or capital. -/
def IsHex (c : Char) (n : ℕ) : Prop := n < 16 ∧ (c = n.digitChar ∨ c = n.digitChar.toUpper)

/-- A code unit by its four digits. -/
inductive CodeUnit : ℕ → List Char → List Char → Prop where
  | mk {a b c d : Char} {k l m n : ℕ} (ha : IsHex a k) (hb : IsHex b l) (hc : IsHex c m)
      (hd : IsHex d n) (rest : List Char) :
      CodeUnit (((k * 16 + l) * 16 + m) * 16 + n) (a :: b :: c :: d :: rest) rest

/-- The characters that have an escape of one letter, behind that letter. -/
def escapes : List (Char × Char) :=
  [('"', '"'), ('\\', '\\'), ('/', '/'), ('b', '\x08'), ('f', '\x0c'), ('n', '\n'), ('r', '\r'),
    ('t', '\t')]

/-- A character that may stand for itself inside quotes. -/
def IsPlain (c : Char) : Prop := c ≠ '"' ∧ c ≠ '\\' ∧ 0x20 ≤ c.toNat

instance : DecidablePred IsPlain := fun c =>
  inferInstanceAs (Decidable (c ≠ '"' ∧ c ≠ '\\' ∧ 0x20 ≤ c.toNat))

/-- A character as it stands inside quotes: one beyond the code units is a pair of them. -/
inductive Spelled : Char → List Char → List Char → Prop where
  | plain {c : Char} (hc : IsPlain c) (rest : List Char) : Spelled c (c :: rest) rest
  | escape {c d : Char} (h : (d, c) ∈ escapes) (rest : List Char) :
      Spelled c ('\\' :: d :: rest) rest
  | unit {c : Char} {cs rest : List Char} (h : CodeUnit c.toNat cs rest) :
      Spelled c ('\\' :: 'u' :: cs) rest
  | pair {c : Char} {m n : ℕ} {cs cs' rest : List Char} (hm : 0xD800 ≤ m ∧ m ≤ 0xDBFF)
      (hn : 0xDC00 ≤ n ∧ n ≤ 0xDFFF) (hc : c.toNat = (m - 0xD800) * 0x400 + (n - 0xDC00) + 0x10000)
      (h : CodeUnit m cs ('\\' :: 'u' :: cs')) (h' : CodeUnit n cs' rest) :
      Spelled c ('\\' :: 'u' :: cs) rest

/-- The characters of a string up to its closing quote. -/
inductive Characters : List Char → List Char → List Char → Prop where
  | close (rest : List Char) : Characters [] ('"' :: rest) rest
  | more {c : Char} {s cs a rest : List Char} (h : Spelled c cs a) (hs : Characters s a rest) :
      Characters (c :: s) cs rest

/-- One sign inside quotes; its code unit need not be paired. -/
inductive Sign : List Char → List Char → Prop where
  | plain {c : Char} (hc : IsPlain c) (rest : List Char) : Sign (c :: rest) rest
  | escape {c d : Char} (h : (d, c) ∈ escapes) (rest : List Char) : Sign ('\\' :: d :: rest) rest
  | unit {n : ℕ} {cs rest : List Char} (h : CodeUnit n cs rest) : Sign ('\\' :: 'u' :: cs) rest

/-- Signs up to the closing quote. -/
inductive Signs : List Char → List Char → Prop where
  | close (rest : List Char) : Signs ('"' :: rest) rest
  | more {cs a rest : List Char} (h : Sign cs a) (hs : Signs a rest) : Signs cs rest

/-- A string behind its opening quote: its text, or any signs at all if nobody asks for the text. -/
def Quoted : Option String → List Char → List Char → Prop
  | some s => Characters s.toList
  | none => Signs

/-! ### Values -/

/-- A value as far as a reader can ask for it: a number by its value if it is written by digits
alone, a string and a key by its text if its code units are paired. -/
inductive Value where
  | null
  | bool (b : Bool)
  | number (n : Option ℕ)
  | string (s : Option String)
  | list (vs : List Value)
  | object (ms : List (Option String × Value))

/-- A key and its colon. -/
inductive Key : Option String → List Char → List Char → Prop where
  | mk {k : Option String} {cs a b rest : List Char} (hcs : Blanks cs ('"' :: a))
      (hk : Quoted k a b) (hb : Blanks b (':' :: rest)) : Key k cs rest

/-- What separates a value from the one before it: nothing, if it is the first. -/
inductive Separator : Bool → List Char → List Char → Prop where
  | first (rest : List Char) : Separator true rest rest
  | comma {cs rest : List Char} (h : Blanks cs (',' :: rest)) : Separator false cs rest

/-- A value, or what is left of a list or an object whose opening sign, and some of whose elements
or members, have been read; `first` says that there were none. -/
inductive Part where
  | value (v : Value)
  | elements (first : Bool) (vs : List Value)
  | members (first : Bool) (ms : List (Option String × Value))

inductive Spells : Part → List Char → List Char → Prop where
  | null (rest : List Char) : Spells (.value .null) ("null".toList ++ rest) rest
  | bool (b : Bool) (rest : List Char) : Spells (.value (.bool b)) ((toString b).toList ++ rest) rest
  | number {n : Option ℕ} {cs rest : List Char} (h : Figures n cs rest) :
      Spells (.value (.number n)) cs rest
  | string {s : Option String} {cs rest : List Char} (h : Quoted s cs rest) :
      Spells (.value (.string s)) ('"' :: cs) rest
  | list {vs : List Value} {cs rest : List Char} (h : Spells (.elements true vs) cs rest) :
      Spells (.value (.list vs)) ('[' :: cs) rest
  | object {ms : List (Option String × Value)} {cs rest : List Char}
      (h : Spells (.members true ms) cs rest) : Spells (.value (.object ms)) ('\x7b' :: cs) rest
  | endList {first : Bool} {cs rest : List Char} (h : Blanks cs (']' :: rest)) :
      Spells (.elements first []) cs rest
  | element {first : Bool} {v : Value} {vs : List Value} {cs a b c rest : List Char}
      (hcs : Separator first cs a) (ha : Blanks a b) (hv : Spells (.value v) b c)
      (h : Spells (.elements false vs) c rest) : Spells (.elements first (v :: vs)) cs rest
  | endObject {first : Bool} {cs rest : List Char} (h : Blanks cs ('\x7d' :: rest)) :
      Spells (.members first []) cs rest
  | member {first : Bool} {k : Option String} {v : Value} {ms : List (Option String × Value)}
      {cs a b c d rest : List Char} (hcs : Separator first cs a) (hk : Key k a b)
      (hb : Blanks b c) (hv : Spells (.value v) c d) (h : Spells (.members false ms) d rest) :
      Spells (.members first ((k, v) :: ms)) cs rest

/-! ### Plain strings -/

theorem characters_plain {s : List Char} (h : s.all (IsPlain ·) = true) (rest : List Char) :
    Characters s (s ++ '"' :: rest) rest := by
  induction s with
  | nil => exact .close rest
  | cons c s ih =>
    rw [List.all_cons, Bool.and_eq_true, decide_eq_true_eq] at h
    exact .more (.plain h.1 _) (ih h.2)

/-- A key whose characters stand for themselves, with no blank around it. -/
theorem key_plain {n : String} (h : n.toList.all (IsPlain ·) = true) (rest : List Char) :
    Key (some n) ('"' :: (n.toList ++ '"' :: ':' :: rest)) rest :=
  .mk (.none _) (characters_plain h _) (.none _)

/-! ### What is left is shorter -/

theorem Run.length_le {p : Char → Bool} {cs rest : List Char} (h : Run p cs rest) :
    rest.length ≤ cs.length := by
  induction h with
  | none rest => exact Nat.le_refl _
  | more hc h ih => exact Nat.le_succ_of_le ih

theorem Blanks.length_le {cs rest : List Char} (h : Blanks cs rest) : rest.length ≤ cs.length :=
  Run.length_le h

theorem Digits.length_lt {cs rest : List Char} (h : Digits cs rest) : rest.length < cs.length := by
  obtain ⟨hc, h⟩ := h
  exact Nat.lt_succ_of_le h.length_le

theorem IntegerPart.length_lt {cs rest : List Char} (h : IntegerPart cs rest) :
    rest.length < cs.length := by
  cases h with
  | zero rest => exact Nat.lt_succ_self _
  | digits hc hz h => exact Nat.lt_succ_of_le h.length_le

theorem FractionPart.length_le {cs rest : List Char} (h : FractionPart cs rest) :
    rest.length ≤ cs.length := by
  cases h with
  | absent rest => exact Nat.le_refl _
  | present h => exact Nat.le_succ_of_le h.length_lt.le

theorem ExponentPart.length_le {cs rest : List Char} (h : ExponentPart cs rest) :
    rest.length ≤ cs.length := by
  cases h with
  | absent rest => exact Nat.le_refl _
  | unsigned he h => exact Nat.le_succ_of_le h.length_lt.le
  | signed he hs h => exact Nat.le_succ_of_le (Nat.le_succ_of_le h.length_lt.le)

theorem Unsigned.length_lt {cs rest : List Char} (h : Unsigned cs rest) :
    rest.length < cs.length := by
  obtain ⟨hi, hf, he⟩ := h
  calc rest.length ≤ _ := he.length_le
    _ ≤ _ := hf.length_le
    _ < cs.length := hi.length_lt

theorem Figures.length_lt {n : Option ℕ} {cs rest : List Char} (h : Figures n cs rest) :
    rest.length < cs.length := by
  cases h with
  | natural n rest =>
    have hpos : 0 < (Nat.toDigits 10 n).length := List.length_pos_of_ne_nil Nat.toDigits_ne_nil
    rw [List.length_append]
    omega
  | positive h => exact h.length_lt
  | negative h => exact Nat.lt_succ_of_lt h.length_lt

theorem CodeUnit.length_lt {n : ℕ} {cs rest : List Char} (h : CodeUnit n cs rest) :
    rest.length < cs.length := by
  obtain ⟨ha, hb, hc, hd, rest⟩ := h
  simp only [List.length_cons]
  omega

theorem Spelled.length_lt {c : Char} {cs rest : List Char} (h : Spelled c cs rest) :
    rest.length < cs.length := by
  cases h with
  | plain hc rest => exact Nat.lt_succ_self _
  | escape h rest => exact Nat.lt_succ_of_lt (Nat.lt_succ_self _)
  | unit h => exact Nat.lt_succ_of_lt (Nat.lt_succ_of_lt h.length_lt)
  | pair hm hn hc h h' =>
    have hm := h.length_lt
    have hn := h'.length_lt
    simp only [List.length_cons] at hm ⊢
    omega

theorem Sign.length_lt {cs rest : List Char} (h : Sign cs rest) : rest.length < cs.length := by
  cases h with
  | plain hc rest => exact Nat.lt_succ_self _
  | escape h rest => exact Nat.lt_succ_of_lt (Nat.lt_succ_self _)
  | unit h => exact Nat.lt_succ_of_lt (Nat.lt_succ_of_lt h.length_lt)

theorem Signs.length_lt {cs rest : List Char} (h : Signs cs rest) : rest.length < cs.length := by
  induction h with
  | close rest => exact Nat.lt_succ_self _
  | more h hs ih => exact ih.trans h.length_lt

/-- The signs of a character, whether it is one of them or a pair. -/
theorem Spelled.signs {c : Char} {cs a rest : List Char} (h : Spelled c cs a) (hs : Signs a rest) :
    Signs cs rest := by
  cases h with
  | plain hc _ => exact .more (.plain hc _) hs
  | escape h _ => exact .more (.escape h _) hs
  | unit h => exact .more (.unit h) hs
  | pair hm hn hc h h' => exact .more (.unit h) (.more (.unit h') hs)

theorem Characters.signs {s cs rest : List Char} (h : Characters s cs rest) : Signs cs rest := by
  induction h with
  | close rest => exact .close rest
  | more h hs ih => exact h.signs ih

theorem Quoted.signs {s : Option String} {cs rest : List Char} (h : Quoted s cs rest) :
    Signs cs rest := by
  cases s with
  | none => exact h
  | some s => exact Characters.signs h

theorem Key.length_lt {k : Option String} {cs rest : List Char} (h : Key k cs rest) :
    rest.length < cs.length := by
  obtain ⟨hcs, hk, hb⟩ := h
  have h₁ := hcs.length_le
  have h₂ := hk.signs.length_lt
  have h₃ := hb.length_le
  rw [List.length_cons] at h₁ h₃
  omega

theorem Separator.length_le {first : Bool} {cs rest : List Char} (h : Separator first cs rest) :
    rest.length ≤ cs.length := by
  cases h with
  | first rest => exact Nat.le_refl _
  | comma h => exact (Nat.le_succ _).trans h.length_le

/-- **Something is left less** behind every part of a text. -/
theorem Spells.length_lt {p : Part} {cs rest : List Char} (h : Spells p cs rest) :
    rest.length < cs.length := by
  induction h with
  | null rest => rw [List.length_append]; exact Nat.lt_add_of_pos_left (by decide)
  | bool b rest =>
    rw [List.length_append]
    exact Nat.lt_add_of_pos_left (by cases b <;> decide)
  | number h => exact h.length_lt
  | string h => exact Nat.lt_succ_of_lt h.signs.length_lt
  | list h ih => exact Nat.lt_succ_of_lt ih
  | object h ih => exact Nat.lt_succ_of_lt ih
  | endList h => exact h.length_le
  | element hcs ha hv h ihv ih =>
    exact ih.trans (ihv.trans_le (ha.length_le.trans hcs.length_le))
  | endObject h => exact h.length_le
  | member hcs hk hb hv h ihv ih =>
    exact ih.trans (ihv.trans_le (hb.length_le.trans (hk.length_lt.le.trans hcs.length_le)))

theorem member_length_lt {first : Bool} {k : Option String} {v : Value} {cs a b c rest : List Char}
    (hcs : Separator first cs a) (hk : Key k a b) (hb : Blanks b c)
    (hv : Spells (.value v) c rest) : rest.length < cs.length :=
  calc rest.length < c.length := hv.length_lt
    _ ≤ b.length := hb.length_le
    _ ≤ a.length := hk.length_lt.le
    _ ≤ cs.length := hcs.length_le

/-! ### What stands behind a value -/

/-- The end, a blank, or a sign that separates or closes. -/
def Delimits (rest : List Char) : Prop :=
  ∀ c ∈ rest.head?, isSpace c = true ∨ c = ',' ∨ c = ']' ∨ c = '\x7d'

theorem delimits_nil : Delimits [] := fun c hc => by cases hc

/-- Blanks before a sign that delimits. -/
theorem Blanks.delimits {cs rest : List Char} (h : Blanks cs rest) (hrest : Delimits rest) :
    Delimits cs := by
  cases h with
  | none _ => exact hrest
  | more hc h =>
    rintro d ⟨⟩
    exact .inl hc

theorem Separator.delimits {cs rest : List Char} (h : Separator false cs rest) : Delimits cs := by
  cases h with
  | comma h => exact h.delimits (by rintro c ⟨⟩; exact .inr (.inl rfl))

/-- **Inside a list, every value is delimited.** -/
theorem Spells.delimits_elements {vs : List Value} {cs rest : List Char}
    (h : Spells (.elements false vs) cs rest) : Delimits cs := by
  cases h with
  | endList h => exact h.delimits (by rintro c ⟨⟩; exact .inr (.inr (.inl rfl)))
  | element hcs ha hv h => exact hcs.delimits

/-- **So is every value inside an object.** -/
theorem Spells.delimits_members {ms : List (Option String × Value)} {cs rest : List Char}
    (h : Spells (.members false ms) cs rest) : Delimits cs := by
  cases h with
  | endObject h => exact h.delimits (by rintro c ⟨⟩; exact .inr (.inr (.inr rfl)))
  | member hcs hk hb hv h => exact hcs.delimits

/-! ### Where a number ends -/

/-- A number whose digits end here does not go on. -/
theorem Delimits.head {rest : List Char} (h : Delimits rest) {c : Char} (hc : c ∈ rest.head?) :
    isDigit c = false ∧ c ≠ '.' ∧ c ≠ 'e' ∧ c ≠ 'E' := by
  have hcases := h c hc
  simp only [isSpace, Bool.or_eq_true, decide_eq_true_eq] at hcases
  rcases hcases with (((rfl | rfl) | rfl) | rfl) | rfl | rfl | rfl <;> decide

/-- What follows the digits before the point is no digit. -/
theorem ExponentPart.head {cs rest : List Char} (h : ExponentPart cs rest) (hrest : Delimits rest)
    {c : Char} (hc : c ∈ cs.head?) : isDigit c = false ∧ c ≠ '.' := by
  cases h with
  | absent _ => exact ⟨(hrest.head hc).1, (hrest.head hc).2.1⟩
  | unsigned he h =>
    cases hc
    rcases he with rfl | rfl <;> decide
  | signed he hs h =>
    cases hc
    rcases he with rfl | rfl <;> decide

theorem FractionPart.head {cs rest : List Char} (h : FractionPart cs rest)
    (hrest : ∀ c ∈ rest.head?, isDigit c = false) {c : Char} (hc : c ∈ cs.head?) :
    isDigit c = false := by
  cases h with
  | absent _ => exact hrest c hc
  | present h =>
    cases hc
    decide

end ShaderConvert.Json
