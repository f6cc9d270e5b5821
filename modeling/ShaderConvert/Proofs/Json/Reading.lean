import Mathlib.Tactic
import ShaderConvert.Json.Document
import ShaderConvert.Proofs.Json.Skipping
import ShaderConvert.Proofs.Utf8RoundTrip

/-
Values are read from any of their texts.

`Takes r v a` says that the reader `r` makes `a` of every text of the value `v`, whatever blanks stand
before it, and leaves what comes behind it; `Refuses r v` says that it fails on every one of them.
There is a law for each reader of a single value, and the law for a list asks for those of its
elements:

* `takes_string` — strings, whichever of its spellings each character has (`stringTail_of_spelled`);
* `takes_natural`, `takes_boolean`, `takes_unit`;
* `takes_list`, `takes_pair`;
* `takes_bare`, `takes_tagged` — choices.
-/
namespace ShaderConvert.Json.Reader

variable {α β : Type}

/-! ### Strings -/

theorem unicodeEscape_of_unit {c : Char} {cs rest : List Char} (h : CodeUnit c.toNat cs rest) :
    unicodeEscape cs = .ok (c, rest) := by
  have hc := Utf8.not_surrogate c
  have hlow : ¬ (0xDC00 ≤ c.toNat ∧ c.toNat ≤ 0xDFFF) := by omega
  have hhigh : c.toNat < 0xD800 ∨ c.toNat > 0xDBFF := by omega
  rw [unicodeEscape, bind_of_ok (fourHex_of_codeUnit h), if_neg hlow, if_pos hhigh,
    Char.ofNat_toNat]
  rfl

/-- A pair of code units is read as the character beyond them. -/
theorem unicodeEscape_of_pair {c : Char} {m n : ℕ} {cs cs' rest : List Char}
    (hm : 0xD800 ≤ m ∧ m ≤ 0xDBFF) (hn : 0xDC00 ≤ n ∧ n ≤ 0xDFFF)
    (hc : c.toNat = (m - 0xD800) * 0x400 + (n - 0xDC00) + 0x10000)
    (h : CodeUnit m cs ('\\' :: 'u' :: cs')) (h' : CodeUnit n cs' rest) :
    unicodeEscape cs = .ok (c, rest) := by
  have hlow : ¬ (0xDC00 ≤ m ∧ m ≤ 0xDFFF) := by omega
  have hhigh : ¬ (m < 0xD800 ∨ m > 0xDBFF) := by omega
  have hsecond : ¬ (n < 0xDC00 ∨ n > 0xDFFF) := by omega
  have hin (c : Char) (l : List Char) : inString (c :: l) = .ok (c, c :: l) := rfl
  rw [unicodeEscape, bind_of_ok (fourHex_of_codeUnit h), if_neg hlow, if_neg hhigh,
    bind_of_ok (hin _ _), bind_of_ok (drop_cons _ _), if_neg (not_not.mpr rfl),
    bind_of_ok (hin _ _), bind_of_ok (drop_cons _ _), if_neg (not_not.mpr rfl),
    bind_of_ok (fourHex_of_codeUnit h'), if_neg hsecond, ← hc, Char.ofNat_toNat]
  rfl

/-- **A character is read from each of its spellings.** -/
theorem stringTail_of_spelled {c : Char} {cs rest : List Char} (h : Spelled c cs rest) (fuel : ℕ)
    (acc : List Char) : stringTail (fuel + 1) acc cs = stringTail fuel (c :: acc) rest := by
  cases h with
  | plain hc _ =>
    obtain ⟨hquote, hslash, hlow⟩ := hc
    rw [stringTail_succ, if_neg hquote, if_neg hslash, if_neg (Nat.not_lt.mpr hlow)]
  | @escape d h _ =>
    have hescape : escape (d :: rest) = .ok (c, rest) := by
      have hin : inString (d :: rest) = .ok (d, d :: rest) := rfl
      rw [escape, bind_of_ok hin, bind_of_ok (drop_cons _ _)]
      simp only [simpleEscape?_of_mem h]
      rfl
    exact stringTail_escape hescape
  | unit h => exact stringTail_escape (unicodeEscape_of_unit h)
  | pair hm hn hc h h' => exact stringTail_escape (unicodeEscape_of_pair hm hn hc h h')

theorem stringTail_of_characters {s cs rest : List Char} (h : Characters s cs rest) {fuel : ℕ}
    (hfuel : cs.length < fuel) (acc : List Char) :
    stringTail fuel acc cs = .ok (String.ofList (acc.reverse ++ s), rest) := by
  obtain ⟨fuel, rfl⟩ := Nat.exists_eq_succ_of_ne_zero (Nat.ne_zero_of_lt hfuel)
  induction h generalizing fuel acc with
  | close rest =>
    rw [stringTail_succ, if_pos rfl, List.append_nil]
    rfl
  | @more c s cs a rest h hs ih =>
    have hlt := Nat.lt_of_lt_of_le h.length_lt (Nat.le_of_lt_succ hfuel)
    obtain ⟨fuel, rfl⟩ := Nat.exists_eq_succ_of_ne_zero (Nat.ne_zero_of_lt hlt)
    rw [stringTail_of_spelled h, ih _ fuel hlt, List.reverse_cons, List.append_assoc,
      List.singleton_append]

theorem stringBody_of_quoted {s : String} {cs rest : List Char} (h : Quoted (some s) cs rest) :
    stringBody cs = .ok (s, rest) := by
  rw [stringBody, stringTail_of_characters h (Nat.lt_succ_self _), List.reverse_nil,
    List.nil_append, String.ofList_toList]

/-! ### Single values -/

/-- A reader makes `a` of every text of a value. -/
def Takes (r : Reader α) (v : Value) (a : α) : Prop :=
  ∀ ⦃cs b rest⦄, Blanks cs b → Spells (.value v) b rest → Delimits rest → r cs = .ok (a, rest)

/-- A reader fails on every text of a value. -/
def Refuses (r : Reader α) (v : Value) : Prop :=
  ∀ ⦃cs b rest⦄, Blanks cs b → Spells (.value v) b rest → Delimits rest → ∃ e, r cs = .error e

theorem bind_of_error {r : Reader α} {f : α → Reader β} {cs : List Char} {e : Failure}
    (h : r cs = .error e) : (r >>= f) cs = .error e := by
  show (r cs >>= fun p => f p.1 p.2) = .error e
  rw [h]
  rfl

/-- What is made of the value that was read. -/
theorem Takes.bind {r : Reader α} {v : Value} {a : α} {b : β} {f : α → Reader β}
    (h : Takes r v a) (hf : f a = pure b) : Takes (r >>= f) v b := by
  intro cs l rest hcs hv hrest
  rw [bind_of_ok (h hcs hv hrest), hf]
  rfl

theorem Refuses.bind {r : Reader α} {v : Value} (h : Refuses r v) (f : α → Reader β) :
    Refuses (r >>= f) v := by
  intro cs l rest hcs hv hrest
  obtain ⟨e, he⟩ := h hcs hv hrest
  exact ⟨e, bind_of_error he⟩

/-- A text that has nothing but a value is read to its end. -/
theorem Takes.run_eq {r : Reader α} {v : Value} {a : α} (h : Takes r v a) {text : String}
    {b rest : List Char} (hb : Blanks text.toList b) (hv : Spells (.value v) b rest)
    (hrest : Blanks rest []) : run r text = .ok a := by
  have hend : peekPastSpace rest = .ok (none, []) := by
    rw [peekPastSpace, Run.dropWhile hrest]
    rfl
  rw [run]
  simp only [bind_of_ok (h hb hv (hrest.delimits delimits_nil)), bind_of_ok hend]
  rfl

theorem Refuses.run_eq {r : Reader α} {v : Value} (h : Refuses r v) {text : String}
    {b rest : List Char} (hb : Blanks text.toList b) (hv : Spells (.value v) b rest)
    (hrest : Blanks rest []) : ∃ m, run r text = .error m := by
  obtain ⟨e, he⟩ := h hb hv (hrest.delimits delimits_nil)
  rw [run]
  simp only [bind_of_error he]
  exact ⟨_, rfl⟩

theorem takes_unit : Takes unit .null () := by
  intro cs b rest hcs hv hrest
  cases hv
  rw [unit, bind_of_ok (peekValue_blanks hcs (by decide))]
  rfl

theorem takes_boolean (b : Bool) : Takes boolean (.bool b) b := by
  intro cs l rest hcs hv hrest
  cases hv
  cases b with
  | false =>
    rw [boolean, bind_of_ok (peekValue_blanks hcs (by decide))]
    rfl
  | true =>
    rw [boolean, bind_of_ok (peekValue_blanks hcs (by decide))]
    rfl

theorem string_of_quoted {s : String} {cs a rest : List Char} (hcs : Blanks cs ('"' :: a))
    (h : Quoted (some s) a rest) : string cs = .ok (s, rest) := by
  rw [string, bind_of_ok (peekValue_blanks hcs (by decide))]
  simp only
  rw [bind_of_ok (drop_cons _ _)]
  exact stringBody_of_quoted h

theorem takes_string (s : String) : Takes string (.string (some s)) s := by
  intro cs b rest hcs hv hrest
  cases hv with
  | string h => exact string_of_quoted hcs h

theorem takes_natural {limit n : ℕ} (hn : n < limit) (h64 : n < limit64) (expected : String) :
    Takes (natural limit expected) (.number (some n)) n := by
  intro cs b rest hcs hv hrest
  cases hv with
  | number h =>
    cases h with
    | natural _ _ =>
      obtain ⟨c, l, hcl⟩ := List.exists_cons_of_ne_nil (Nat.toDigits_ne_nil (n := n) (b := 10))
      have hdigit : isDigit c = true := isDigit_of_toDigits hcl
      have hpeek : peekValue cs = .ok (c, Nat.toDigits 10 n ++ rest) := by
        rw [hcl, List.cons_append] at hcs ⊢
        exact peekValue_blanks hcs (isSpace_of_isDigit hdigit)
      exact natural_of_peekValue hn h64 hcl hpeek (fun c hc => hrest.head hc) expected

/-! ### Lists -/

section Lists

variable {first : Bool} {cs a b rest : List Char}

theorem nextElement_endList (h : Blanks cs (']' :: rest)) (first : Bool) :
    nextElement first cs = .ok (false, ']' :: rest) := by
  rw [nextElement, bind_of_ok (peekPastSpace_blanks h (by decide))]
  rfl

theorem nextElement_of_separator (hs : Separator first cs a) {v : Value} (ha : Blanks a b)
    (hv : Spells (.value v) b rest) : nextElement first cs = .ok (true, b) := by
  obtain ⟨c, l, rfl, hspace, hc⟩ := hv.opens
  cases hs with
  | first _ =>
    rw [nextElement, bind_of_ok (peekPastSpace_blanks ha hspace)]
    simp only [if_neg hc, if_true]
    rfl
  | comma h =>
    rw [nextElement, bind_of_ok (peekPastSpace_blanks h (by decide))]
    simp only [Char.reduceEq, if_false, Bool.false_eq_true, if_true]
    rw [bind_of_ok (drop_cons _ _), bind_of_ok (peekPastSpace_blanks ha hspace)]
    -- by `hc` the comma is not the last sign before the bracket
    simp only
    rfl

/-- **The elements of a list are read one after another.** -/
theorem elements_of_spells {item : Reader α} {vs : List Value} {as : List α}
    (hitem : List.Forall₂ (Takes item) vs as) (h : Spells (.elements first vs) cs rest) {fuel : ℕ}
    (hfuel : cs.length < fuel) : elements item fuel first cs = .ok (as, ']' :: rest) := by
  obtain ⟨fuel, rfl⟩ := Nat.exists_eq_succ_of_ne_zero (Nat.ne_zero_of_lt hfuel)
  induction hitem generalizing first cs fuel with
  | nil =>
    cases h with
    | endList h =>
      rw [elements, bind_of_ok (nextElement_endList h first)]
      rfl
  | cons hv hvs ih =>
    cases h with
    | element hcs ha hb h =>
      have hlt := (hb.length_lt.trans_le (ha.length_le.trans hcs.length_le)).trans_le
        (Nat.le_of_lt_succ hfuel)
      obtain ⟨fuel, rfl⟩ := Nat.exists_eq_succ_of_ne_zero (Nat.ne_zero_of_lt hlt)
      rw [elements, bind_of_ok (nextElement_of_separator hcs ha hb)]
      simp only [if_true]
      rw [bind_of_ok (hv (.none _) hb h.delimits_elements), bind_of_ok (ih h fuel hlt)]
      rfl

theorem endList_of_blanks (h : Blanks cs (']' :: rest)) : endList cs = .ok ((), rest) := by
  rw [endList, bind_of_ok (peekPastSpace_blanks h (by decide))]
  rfl

/-- What stands between the brackets of a list. -/
theorem takes_brackets {r : Reader α} {vs : List Value} {x : α} (contents : Reader α)
    (hr : ∀ {cs l}, Blanks cs ('[' :: l) → r cs = placed (enclosed contents endList) l)
    (h : ∀ {l rest}, Spells (.elements true vs) l rest →
      ∃ l', contents l = .ok (x, l') ∧ Blanks l' (']' :: rest)) : Takes r (.list vs) x := by
  intro cs b rest hcs hv hrest
  cases hv with
  | list hv =>
    obtain ⟨l', hcontents, hl'⟩ := h hv
    rw [hr hcs]
    exact placed_of_ok (enclosed_of_ok hcontents (endList_of_blanks hl'))

theorem takes_list {item : Reader α} {vs : List Value} {as : List α}
    (hitem : List.Forall₂ (Takes item) vs as) : Takes (list item) (.list vs) as := by
  refine takes_brackets (fun cs => elements item (cs.length + 1) true cs) ?_ ?_
  · intro cs l hcs
    rw [list, placed, bind_of_ok (peekValue_blanks hcs (by decide))]
    rfl
  · intro l rest h
    exact ⟨_, elements_of_spells hitem h (Nat.lt_succ_self _), .none _⟩

theorem takes_pair {item : Reader α} {v w : Value} {x y : α} (hx : Takes item v x)
    (hy : Takes item w y) : Takes (pair item) (.list [v, w]) (x, y) := by
  refine takes_brackets (pairElements item) ?_ ?_
  · intro cs l hcs
    rw [pair, placed, bind_of_ok (peekValue_blanks hcs (by decide))]
    rfl
  · intro l rest h
    cases h with
    | element hcs ha hv h =>
      have hdelimits := h.delimits_elements
      cases h with
      | element hcs' ha' hw h =>
        refine ⟨_, ?_, by cases h with | endList h => exact h⟩
        rw [pairElements, bind_of_ok (nextElement_of_separator hcs ha hv)]
        simp only [Bool.not_true, Bool.false_eq_true, if_false]
        rw [bind_of_ok (hx (.none _) hv hdelimits),
          bind_of_ok (nextElement_of_separator hcs' ha' hw)]
        simp only [Bool.not_true, Bool.false_eq_true, if_false]
        rw [bind_of_ok (hy (.none _) hw h.delimits_elements)]
        rfl

end Lists

/-! ### Choices -/

section Choices

variable {vs : List (Variant α)} {w : Variant α} {n : String} {a : α}

theorem colon_of_blanks {cs rest : List Char} (h : Blanks cs (':' :: rest)) :
    colon cs = .ok ((), rest) := by
  rw [colon, bind_of_ok (peekPastSpace_blanks h (by decide))]
  rfl

theorem variantName_of_quoted (hw : vs.find? (·.name = n) = some w) {cs l rest : List Char}
    (hcs : Blanks cs ('"' :: l)) (h : Quoted (some n) l rest) :
    variantName vs cs = .ok (w, rest) := by
  rw [variantName, bind_of_ok (string_of_quoted hcs h)]
  simp only [hw]
  rfl

/-- **A bare variant is read from its name.** -/
theorem takes_bare (hw : vs.find? (·.name = n) = some w) (ha : w.bare = some a) :
    Takes (variant vs) (.string (some n)) a := by
  intro cs b rest hcs hv hrest
  cases hv with
  | string h =>
    rw [variant, bind_of_ok (peekPastSpace_blanks hcs (by decide))]
    simp only
    rw [bind_of_ok (variantName_of_quoted hw (.none _) h)]
    simp only [ha]
    rfl

/-- An object with one member is read as the variant of its name, whose contents are its value. -/
theorem variant_of_object (hw : vs.find? (·.name = n) = some w) {v : Value}
    {cs l rest : List Char} (hcs : Blanks cs ('\x7b' :: l))
    (h : Spells (.members true [(some n, v)]) l rest) :
    ∃ l₁ l₂ l₃, Blanks l₁ l₂ ∧ Spells (.value v) l₂ l₃ ∧ Delimits l₃ ∧
      (∀ a, w.contents l₁ = .ok (a, l₃) → variant vs cs = .ok (a, rest)) ∧
      ∀ e, w.contents l₁ = .error e → variant vs cs = .error e := by
  cases h with
  | member hsep hkey hb hv h =>
    cases hsep
    obtain ⟨hk, hq, hcolon⟩ := hkey
    have hdelimits := h.delimits_members
    cases h with
    | endObject hend =>
      refine ⟨_, _, _, hb, hv, hdelimits, ?_⟩
      rw [variant, bind_of_ok (peekPastSpace_blanks hcs (by decide))]
      simp only
      rw [bind_of_ok (drop_cons _ _), bind_of_ok (variantName_of_quoted hw hk hq),
        bind_of_ok (colon_of_blanks hcolon)]
      refine ⟨fun a ha => ?_, fun e he => bind_of_error he⟩
      rw [bind_of_ok ha, bind_of_ok (peekPastSpace_blanks hend (by decide))]
      rfl

/-- **A variant is read from an object with one member**, if its contents are. -/
theorem takes_tagged (hw : vs.find? (·.name = n) = some w) {v : Value}
    (ha : Takes w.contents v a) : Takes (variant vs) (.object [(some n, v)]) a := by
  intro cs b rest hcs hv hrest
  cases hv with
  | object h =>
    obtain ⟨_, _, _, hb, hv, hdelimits, hok, -⟩ := variant_of_object hw hcs h
    exact hok a (ha hb hv hdelimits)

theorem refuses_tagged (hw : vs.find? (·.name = n) = some w) {v : Value}
    (h : Refuses w.contents v) : Refuses (variant vs) (.object [(some n, v)]) := by
  intro cs b rest hcs hv hrest
  cases hv with
  | object hm =>
    obtain ⟨_, _, _, hb, hv, hdelimits, -, herror⟩ := variant_of_object hw hcs hm
    obtain ⟨e, he⟩ := h hb hv hdelimits
    exact ⟨e, herror e he⟩

end Choices

end ShaderConvert.Json.Reader
