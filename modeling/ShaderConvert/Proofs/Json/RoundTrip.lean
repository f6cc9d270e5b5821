import Mathlib.Tactic
import ShaderConvert.Json.Document
import ShaderConvert.Json.Writer

/-
What the writer of JSON writes, the reader reads back.

`Reads r text a` says that the reader `r` takes `text` off the front of any input and makes `a` of
it, if something comes behind it that can follow a value (`Follows`).  There is one law for each way
to write a value, and a law for a value asks for those of its parts:

* `reads_string` — strings, whatever characters they have (`stringTail_escapeChar`);
* `reads_natural` — numbers of 64 bits, by their digits (`numeral_toDigits`);
* `reads_list`, `reads_pair` — lists, one element after another;
* `reads_bare`, `reads_tagged` — choices, by the name of a variant;
* `reads_record` — records, one member after another (`Fills`).

A reader that takes a whole text gives its value (`Reads.run_eq`).
-/
namespace ShaderConvert.Json.Reader

variable {α β σ : Type}

/-! ### Steps of a reader -/

/-- A reader goes on with what the first part of it read. -/
theorem bind_of_ok {r : Reader α} {f : α → Reader β} {cs cs' : List Char} {a : α}
    (h : r cs = .ok (a, cs')) : (r >>= f) cs = f a cs' := by
  show (r cs >>= fun p => f p.1 p.2) = f a cs'
  rw [h]
  rfl

theorem placed_of_ok {r : Reader α} {cs cs' : List Char} {a : α}
    (h : r cs = .ok (a, cs')) : placed r cs = .ok (a, cs') := by
  rw [placed, h]

theorem enclosed_of_ok {r : Reader α} {finish : Reader Unit} {cs cs' cs'' : List Char}
    {a : α} (h : r cs = .ok (a, cs')) (hf : finish cs' = .ok ((), cs'')) :
    enclosed r finish cs = .ok (a, cs'') := by
  rw [enclosed, h]
  simp only [hf]

theorem drop_cons (c : Char) (l : List Char) : drop (c :: l) = .ok ((), l) := rfl

theorem peekPastSpace_cons {c : Char} (h : isSpace c = false) (l : List Char) :
    peekPastSpace (c :: l) = .ok (some c, c :: l) := by
  rw [peekPastSpace, List.dropWhile_cons_of_neg (by simp [h])]
  rfl

theorem peekValue_cons {c : Char} (h : isSpace c = false) (l : List Char) :
    peekValue (c :: l) = .ok (c, c :: l) := by
  rw [peekValue, bind_of_ok (peekPastSpace_cons h l)]
  rfl

/-! ### Strings -/

/-- The escape of a control character is read back. -/
theorem escape_hex {n : ℕ} (h : n < 0x20) (rest : List Char) :
    escape ('u' :: ((Text.hex 4 n).toList ++ rest)) = .ok (Char.ofNat n, rest) := by
  interval_cases n <;> rfl

theorem stringTail_succ (fuel : ℕ) (acc : List Char) (c : Char) (l : List Char) :
    stringTail (fuel + 1) acc (c :: l) =
      (if c = '"' then pure (String.ofList acc.reverse)
      else if c = '\\' then escape >>= fun d => stringTail fuel (d :: acc)
      else if c.toNat < 0x20 then fail .controlCharacter
      else stringTail fuel (c :: acc)) l := by
  rw [stringTail]
  rfl

theorem stringTail_escape {fuel : ℕ} {acc l rest : List Char} {c : Char}
    (h : escape l = .ok (c, rest)) :
    stringTail (fuel + 1) acc ('\\' :: l) = stringTail fuel (c :: acc) rest := by
  rw [stringTail_succ, if_neg (by decide), if_pos rfl, bind_of_ok h]

/-- **Every character is read back from the way it stands inside quotes.** -/
theorem stringTail_escapeChar (fuel : ℕ) (acc : List Char) (c : Char) (rest : List Char) :
    stringTail (fuel + 1) acc ((escapeChar c).toList ++ rest)
      = stringTail fuel (c :: acc) rest := by
  unfold escapeChar
  split_ifs with hquote hslash hback hform hline hreturn htab hcontrol
  · subst hquote
    exact stringTail_escape (l := '"' :: rest) rfl
  · subst hslash
    exact stringTail_escape (l := '\\' :: rest) rfl
  · subst hback
    exact stringTail_escape (l := 'b' :: rest) rfl
  · subst hform
    exact stringTail_escape (l := 'f' :: rest) rfl
  · subst hline
    exact stringTail_escape (l := 'n' :: rest) rfl
  · subst hreturn
    exact stringTail_escape (l := 'r' :: rest) rfl
  · subst htab
    exact stringTail_escape (l := 't' :: rest) rfl
  · have hesc := escape_hex hcontrol rest
    rw [Char.ofNat_toNat] at hesc
    rw [String.toList_append, List.append_assoc]
    generalize (Text.hex 4 c.toNat).toList ++ rest = l at hesc ⊢
    exact stringTail_escape hesc
  · rw [String.toList_ofList, List.singleton_append, stringTail_succ, if_neg hquote, if_neg hslash,
      if_neg hcontrol]

/-- The characters of a text as they stand inside quotes. -/
def escaped (s : List Char) : List Char := s.flatMap fun c => (escapeChar c).toList

theorem length_escapeChar_pos (c : Char) : 0 < (escapeChar c).toList.length := by
  unfold escapeChar
  split_ifs
  all_goals simp

theorem length_le_escaped (s : List Char) : s.length ≤ (escaped s).length := by
  induction s with
  | nil => exact Nat.le_refl 0
  | cons c s ih =>
    have hpos := length_escapeChar_pos c
    rw [escaped, List.flatMap_cons, List.length_append, ← escaped, List.length_cons]
    omega

/-- **A text is read back to its closing quote**, one character after another. -/
theorem stringTail_escaped {s : List Char} {fuel : ℕ} (h : s.length < fuel) (acc rest : List Char) :
    stringTail fuel acc (escaped s ++ '"' :: rest)
      = .ok (String.ofList (acc.reverse ++ s), rest) := by
  induction s generalizing fuel acc with
  | nil =>
    obtain ⟨fuel, rfl⟩ : ∃ n, fuel = n + 1 := ⟨fuel - 1, by rw [List.length_nil] at h; omega⟩
    rw [List.append_nil]
    show stringTail (fuel + 1) acc ('"' :: rest) = _
    rw [stringTail_succ, if_pos rfl]
    rfl
  | cons c s ih =>
    rw [List.length_cons] at h
    obtain ⟨fuel, rfl⟩ : ∃ n, fuel = n + 1 := ⟨fuel - 1, by omega⟩
    have hlist : escaped (c :: s) ++ '"' :: rest
        = (escapeChar c).toList ++ (escaped s ++ '"' :: rest) := by
      rw [escaped, List.flatMap_cons, List.append_assoc, ← escaped]
    rw [hlist, stringTail_escapeChar, ih (by omega), List.reverse_cons, List.append_assoc,
      List.singleton_append]

theorem stringBody_escaped (s : String) (rest : List Char) :
    stringBody (escaped s.toList ++ '"' :: rest) = .ok (s, rest) := by
  have hlen := length_le_escaped s.toList
  rw [stringBody, stringTail_escaped (by rw [List.length_append]; omega), List.reverse_nil,
    List.nil_append, String.ofList_toList]

theorem toList_writeString (s : String) :
    (writeString s).toList = '"' :: (escaped s.toList ++ ['"']) := by
  rw [writeString, String.toList_append, String.toList_append, String.toList_join, List.flatMap_map]
  rfl

/-- **A written string is read back**, whatever comes behind it. -/
theorem string_writeString (s : String) (rest : List Char) :
    string ((writeString s).toList ++ rest) = .ok (s, rest) := by
  rw [toList_writeString, List.cons_append, List.append_assoc, List.singleton_append, string,
    bind_of_ok (peekValue_cons (by decide) _)]
  exact stringBody_escaped s rest

/-! ### What may come behind a value -/

/-- Behind a value comes the end, or a sign that separates or closes. -/
inductive Follows : List Char → Prop where
  | nil : Follows []
  | comma (l : List Char) : Follows (',' :: l)
  | bracket (l : List Char) : Follows (']' :: l)
  | brace (l : List Char) : Follows ('\x7d' :: l)

/-- A reader takes a text off the front of the input and makes `a` of it.  The text begins with a
sign of its own. -/
structure Reads (r : Reader α) (text : String) (a : α) : Prop where
  opens : ∃ c l, text.toList = c :: l ∧ isSpace c = false ∧ c ≠ ']'
  reads : ∀ rest, Follows rest → r (text.toList ++ rest) = .ok (a, rest)

/-- What is made of the value that was read. -/
theorem Reads.bind {r : Reader α} {text : String} {a : α} {b : β}
    {f : α → Reader β} (h : Reads r text a) (hf : f a = pure b) : Reads (r >>= f) text b where
  opens := h.opens
  reads rest hrest := by
    rw [bind_of_ok (h.reads rest hrest), hf]
    rfl

/-- **A whole text is read** by a reader that takes all of it. -/
theorem Reads.run_eq {r : Reader α} {text : String} {a : α} (h : Reads r text a) :
    run r text = .ok a := by
  have hr := h.reads [] .nil
  rw [List.append_nil] at hr
  rw [run]
  simp only [bind_of_ok hr]
  rfl

theorem reads_string (s : String) : Reads string (writeString s) s where
  opens := ⟨'"', _, toList_writeString s, by decide, by decide⟩
  reads rest _ := string_writeString s rest

theorem reads_boolean (b : Bool) : Reads boolean (writeBool b) b := by
  cases b with
  | true => exact ⟨⟨'t', _, rfl, by decide, by decide⟩, fun rest _ => rfl⟩
  | false => exact ⟨⟨'f', _, rfl, by decide, by decide⟩, fun rest _ => rfl⟩

/-! ### Numbers -/

theorem le_ofDigitChars (ds : List Char) (n : ℕ) : n ≤ Nat.ofDigitChars 10 ds n := by
  rw [Nat.ofDigitChars_eq_ofDigitChars_zero]
  have hpow : 1 ≤ 10 ^ ds.length := Nat.one_le_pow _ _ (by decide)
  calc n = 1 * n := (Nat.one_mul n).symm
    _ ≤ 10 ^ ds.length * n := Nat.mul_le_mul_right n hpow
    _ ≤ _ := Nat.le_add_right _ _

/-- Digits are gathered to the end if their number has 64 bits. -/
theorem gather_eq {ds : List Char} {n : ℕ} (h : Nat.ofDigitChars 10 ds n < limit64) :
    gather n ds = (Nat.ofDigitChars 10 ds n, []) := by
  induction ds generalizing n with
  | nil => rfl
  | cons c ds ih =>
    rw [Nat.ofDigitChars_cons, Nat.mul_comm] at h ⊢
    have hstep : n * 10 + digitValue c < limit64 := Nat.lt_of_le_of_lt (le_ofDigitChars ds _) h
    rw [gather, if_pos hstep]
    exact ih h

theorem isDigit_of_mem {n : ℕ} {c : Char} (h : c ∈ Nat.toDigits 10 n) : isDigit c = true := by
  have hc := Nat.isDigit_of_mem_toDigits (by decide) (by decide) h
  rw [Char.isDigit, Bool.and_eq_true, decide_eq_true_eq, decide_eq_true_eq] at hc
  rw [isDigit, Bool.and_eq_true, decide_eq_true_eq, decide_eq_true_eq]
  exact hc

theorem isDigit_of_toDigits {n : ℕ} {c : Char} {l : List Char} (h : Nat.toDigits 10 n = c :: l) :
    isDigit c = true := by
  apply isDigit_of_mem (n := n)
  rw [h]
  exact List.mem_cons_self

/-- Only the number zero begins with the digit zero. -/
theorem toDigits_eq_cons {n : ℕ} (h : n ≠ 0) : ∃ c l, Nat.toDigits 10 n = c :: l ∧ c ≠ '0' := by
  induction n using Nat.strong_induction_on with
  | _ n ih =>
    rw [Nat.toDigits_eq_if (by decide)]
    by_cases hn : n < 10
    · rw [if_pos hn]
      refine ⟨_, [], rfl, ?_⟩
      interval_cases n <;> first | exact absurd rfl h | decide
    · rw [if_neg hn]
      obtain ⟨c, l, hcl, hc⟩ := ih (n / 10) (by omega) (by omega)
      exact ⟨c, l ++ [(n % 10).digitChar], by rw [hcl]; rfl, hc⟩

/-- Behind a value no number goes on. -/
theorem Follows.head {rest : List Char} (h : Follows rest) {c : Char} (hc : c ∈ rest.head?) :
    isDigit c = false ∧ c ≠ '.' ∧ c ≠ 'e' ∧ c ≠ 'E' := by
  cases h <;> cases hc <;> decide

theorem digits_toDigits (n : ℕ) {rest : List Char} (h : ∀ c ∈ rest.head?, isDigit c = false) :
    digits (Nat.toDigits 10 n ++ rest) = .ok (Nat.toDigits 10 n, rest) := by
  have hnone : rest.takeWhile isDigit = [] ∧ rest.dropWhile isDigit = rest := by
    cases rest with
    | nil => exact ⟨rfl, rfl⟩
    | cons c rest =>
      have hc : ¬ isDigit c = true := by simp [h c rfl]
      exact ⟨List.takeWhile_cons_of_neg hc, List.dropWhile_cons_of_neg hc⟩
  have hall : ∀ c ∈ Nat.toDigits 10 n, isDigit c = true := fun c hc => isDigit_of_mem hc
  rw [digits, List.takeWhile_append_of_pos hall, List.dropWhile_append_of_pos hall, hnone.1,
    hnone.2, List.append_nil]

section Numerals

variable {n : ℕ} {rest : List Char}

theorem finish_natural (h : ∀ c ∈ rest.head?, isDigit c = false ∧ c ≠ '.' ∧ c ≠ 'e' ∧ c ≠ 'E') :
    numeral.finish false n 0 rest = .ok (.natural n, rest) := by
  have hpoint : rest.head? ≠ some '.' := fun hc => (h _ hc).2.1 rfl
  have hmark : ¬ (rest.head? = some 'e' ∨ rest.head? = some 'E') := by
    rintro (hc | hc)
    · exact (h _ hc).2.2.1 rfl
    · exact (h _ hc).2.2.2 rfl
  have hpeek : peek rest = .ok (rest.head?, rest) := rfl
  rw [numeral.finish, bind_of_ok hpeek, if_neg hpoint, if_neg hmark]
  rfl

/-- **A number of 64 bits is read back from its digits.** -/
theorem numeral_toDigits (hn : n < limit64)
    (h : ∀ c ∈ rest.head?, isDigit c = false ∧ c ≠ '.' ∧ c ≠ 'e' ∧ c ≠ 'E') :
    numeral false (Nat.toDigits 10 n ++ rest) = .ok (.natural n, rest) := by
  have hdigits : ∀ c ∈ rest.head?, isDigit c = false := fun c hc => (h c hc).1
  -- a zero is read as a sign of its own, since no digit may come behind it
  by_cases hz : n = 0
  · subst hz
    rw [Nat.toDigits_zero, List.singleton_append]
    cases rest with
    | nil => rfl
    | cons c rest =>
      show (if isDigit c = true then _ else numeral.finish false 0 0 : Reader Numeral) (c :: rest) = _
      rw [if_neg (by simp [hdigits c rfl])]
      exact finish_natural h
  · obtain ⟨c, l, hcl, hc⟩ := toDigits_eq_cons hz
    have hdigit : isDigit c = true := isDigit_of_toDigits hcl
    have hgather : gather 0 (Nat.toDigits 10 n) = (n, []) := by
      have hvalue : Nat.ofDigitChars 10 (Nat.toDigits 10 n) 0 = n := Nat.ofDigitChars_ten_toDigits
      rw [gather_eq (by rw [hvalue]; exact hn), hvalue]
    have hpeek : peek (Nat.toDigits 10 n ++ rest) = .ok (some c, Nat.toDigits 10 n ++ rest) := by
      rw [hcl]
      rfl
    rw [numeral, bind_of_ok hpeek]
    simp only [hdigit, Bool.not_true, Bool.false_eq_true, if_false, if_neg hc]
    rw [bind_of_ok (digits_toDigits n hdigits)]
    simp only [hgather, List.length_nil]
    exact finish_natural h

/-- A digit is none of the other signs that a value can begin with. -/
theorem ne_of_isDigit {c d : Char} (h : isDigit c = true) (hd : isDigit d = false) : c ≠ d := by
  rintro rfl
  rw [h] at hd
  cases hd

theorem isSpace_of_isDigit {c : Char} (h : isDigit c = true) : isSpace c = false := by
  simp only [isSpace, Bool.or_eq_false_iff, decide_eq_false_iff_not]
  refine ⟨⟨⟨?_, ?_⟩, ?_⟩, ?_⟩
  all_goals exact ne_of_isDigit h (by decide)

/-- A number below the limit is read once its first digit has been looked at. -/
theorem natural_of_peekValue {limit : ℕ} {c : Char} {cs l : List Char} (hn : n < limit)
    (h64 : n < limit64) (hcl : Nat.toDigits 10 n = c :: l)
    (hpeek : peekValue cs = .ok (c, Nat.toDigits 10 n ++ rest))
    (h : ∀ c ∈ rest.head?, isDigit c = false ∧ c ≠ '.' ∧ c ≠ 'e' ∧ c ≠ 'E') (expected : String) :
    natural limit expected cs = .ok (n, rest) := by
  have hdigit : isDigit c = true := isDigit_of_toDigits hcl
  have hminus : c ≠ '-' := ne_of_isDigit hdigit (by decide)
  rw [natural, bind_of_ok hpeek]
  simp only [hdigit, or_true, if_true, if_neg hminus]
  rw [bind_of_ok (numeral_toDigits h64 h)]
  simp only [if_pos hn]
  rfl

end Numerals

/-- **A number below the limit is read back from its text.** -/
theorem reads_natural {limit n : ℕ} (hn : n < limit) (h64 : n < limit64) (expected : String) :
    Reads (natural limit expected) (toString n) n := by
  have htext : (toString n).toList = Nat.toDigits 10 n := by
    show n.repr.toList = _
    rw [Nat.repr_eq_ofList_toDigits, String.toList_ofList]
  obtain ⟨c, l, hcl⟩ := List.exists_cons_of_ne_nil (Nat.toDigits_ne_nil (n := n) (b := 10))
  have hdigit : isDigit c = true := isDigit_of_toDigits hcl
  have hspace := isSpace_of_isDigit hdigit
  refine ⟨⟨c, l, htext.trans hcl, hspace, ne_of_isDigit hdigit (by decide)⟩, fun rest hrest => ?_⟩
  have hpeek : peekValue (Nat.toDigits 10 n ++ rest) = .ok (c, Nat.toDigits 10 n ++ rest) := by
    rw [hcl, List.cons_append, peekValue_cons hspace]
  rw [htext]
  exact natural_of_peekValue hn h64 hcl hpeek (fun c hc => hrest.head hc) expected

/-! ### Lists -/

/-- Texts behind the first one, each with a comma before it. -/
def commaSeparated (ts : List String) : List Char := ts.flatMap fun t => ',' :: t.toList

theorem commaSeparated_cons (t : String) (ts : List String) :
    commaSeparated (t :: ts) = ',' :: (t.toList ++ commaSeparated ts) := rfl

theorem toList_joinWith_cons (t : String) (ts : List String) :
    (Text.joinWith "," (t :: ts)).toList = t.toList ++ commaSeparated ts := by
  induction ts generalizing t with
  | nil => exact (List.append_nil _).symm
  | cons u ts ih =>
    rw [Text.joinWith, String.toList_append, String.toList_append, ih, List.append_assoc,
      commaSeparated_cons]
    · rfl
    · exact fun h => by cases h

theorem length_le_commaSeparated (ts : List String) : ts.length ≤ (commaSeparated ts).length := by
  induction ts with
  | nil => exact Nat.le_refl 0
  | cons t ts ih =>
    rw [commaSeparated_cons, List.length_cons, List.length_cons, List.length_append]
    omega

/-- Texts that are not empty have at least as many signs together as there are texts. -/
theorem length_le_joinWith {ts : List String} (h : ∀ t ∈ ts, t.toList ≠ []) :
    ts.length ≤ (Text.joinWith "," ts).toList.length := by
  cases ts with
  | nil => exact Nat.zero_le _
  | cons t ts =>
    have hpos : 0 < t.toList.length := List.length_pos_of_ne_nil (h t List.mem_cons_self)
    have hlen := length_le_commaSeparated ts
    rw [toList_joinWith_cons, List.length_append, List.length_cons]
    omega

/-- What comes behind the first of several texts can follow a value. -/
theorem Follows.append (ts : List String) {rest : List Char} (h : Follows rest) :
    Follows (commaSeparated ts ++ rest) := by
  cases ts with
  | nil => exact h
  | cons t ts => exact .comma _

/-- A text that opens a value is the first element. -/
theorem Reads.nextElement_first {r : Reader α} {text : String} {a : α}
    (h : Reads r text a) (rest : List Char) :
    nextElement true (text.toList ++ rest) = .ok (true, text.toList ++ rest) := by
  obtain ⟨c, l, hcl, hs, hc⟩ := h.opens
  rw [hcl, List.cons_append, nextElement, bind_of_ok (peekPastSpace_cons hs _)]
  simp only [if_neg hc, if_true]
  rfl

/-- Behind a comma, it is another one. -/
theorem Reads.nextElement_comma {r : Reader α} {text : String} {a : α}
    (h : Reads r text a) (rest : List Char) :
    nextElement false (',' :: (text.toList ++ rest)) = .ok (true, text.toList ++ rest) := by
  obtain ⟨c, l, hcl, hs, hc⟩ := h.opens
  rw [hcl, List.cons_append, nextElement, bind_of_ok (peekPastSpace_cons (by decide) _)]
  simp only [Char.reduceEq, if_false, Bool.false_eq_true, if_true]
  rw [bind_of_ok (drop_cons _ _), bind_of_ok (peekPastSpace_cons hs _)]
  -- by `hc` the comma is not the last sign before the bracket
  simp only
  rfl

/-- One element, and then the others. -/
theorem Reads.elements_step {item : Reader α} {text : String} {a : α}
    (h : Reads item text a) {rest cs : List Char} (hrest : Follows rest) {first : Bool}
    (hnext : nextElement first cs = .ok (true, text.toList ++ rest)) (fuel : ℕ) :
    elements item (fuel + 1) first cs
      = (elements item fuel false >>= fun r => pure (a :: r)) rest := by
  rw [elements, bind_of_ok hnext]
  simp only [if_true]
  rw [bind_of_ok (h.reads rest hrest)]

/-- **The elements behind the first one are read back**, one after another. -/
theorem elements_commaSeparated {item : Reader α} {write : α → String} {as : List α}
    (h : ∀ a ∈ as, Reads item (write a) a) {fuel : ℕ} (hfuel : as.length < fuel)
    (rest : List Char) :
    elements item fuel false (commaSeparated (as.map write) ++ ']' :: rest)
      = .ok (as, ']' :: rest) := by
  induction as generalizing fuel with
  | nil =>
    obtain ⟨fuel, rfl⟩ := Nat.exists_eq_succ_of_ne_zero (Nat.ne_zero_of_lt hfuel)
    rfl
  | cons a as ih =>
    obtain ⟨fuel, rfl⟩ := Nat.exists_eq_succ_of_ne_zero (Nat.ne_zero_of_lt hfuel)
    have ha := h a List.mem_cons_self
    have hothers := ih (fun x hx => h x (List.mem_cons_of_mem a hx)) (Nat.lt_of_succ_lt_succ hfuel)
    rw [List.map_cons, commaSeparated_cons, List.cons_append, List.append_assoc,
      ha.elements_step (.append _ (.bracket rest)) (ha.nextElement_comma _),
      bind_of_ok hothers]
    rfl

theorem elements_joinWith {item : Reader α} {write : α → String} {as : List α}
    (h : ∀ a ∈ as, Reads item (write a) a) {fuel : ℕ} (hfuel : as.length < fuel)
    (rest : List Char) :
    elements item fuel true ((Text.joinWith "," (as.map write)).toList ++ ']' :: rest)
      = .ok (as, ']' :: rest) := by
  obtain ⟨fuel, rfl⟩ := Nat.exists_eq_succ_of_ne_zero (Nat.ne_zero_of_lt hfuel)
  cases as with
  | nil => rfl
  | cons a as =>
    have ha := h a List.mem_cons_self
    have hothers := elements_commaSeparated (fun x hx => h x (List.mem_cons_of_mem a hx))
      (Nat.lt_of_succ_lt_succ hfuel) rest
    rw [List.map_cons, toList_joinWith_cons, List.append_assoc,
      ha.elements_step (.append _ (.bracket rest)) (ha.nextElement_first _),
      bind_of_ok hothers]
    rfl

theorem toList_writeList (ts : List String) (rest : List Char) :
    (writeList ts).toList ++ rest = '[' :: ((Text.joinWith "," ts).toList ++ ']' :: rest) := by
  rw [writeList, String.toList_append, String.toList_append, List.append_assoc, List.append_assoc]
  rfl

/-- What stands between the brackets of a list. -/
theorem reads_brackets {r : Reader α} {ts : List String} {a : α} (contents : Reader α)
    (hr : ∀ l, r ('[' :: l) = placed (enclosed contents endList) l)
    (h : ∀ rest, contents ((Text.joinWith "," ts).toList ++ ']' :: rest) = .ok (a, ']' :: rest)) :
    Reads r (writeList ts) a := by
  refine ⟨⟨'[', _, by simpa using toList_writeList ts [], by decide, by decide⟩, ?_⟩
  intro rest _
  rw [toList_writeList, hr]
  exact placed_of_ok (enclosed_of_ok (h rest) rfl)

/-- **A written list is read back.** -/
theorem reads_list {item : Reader α} {write : α → String} {as : List α}
    (h : ∀ a ∈ as, Reads item (write a) a) :
    Reads (list item) (writeList (as.map write)) as := by
  refine reads_brackets (fun cs => elements item (cs.length + 1) true cs) (fun l => rfl) ?_
  intro rest
  have hlen : as.length ≤ (Text.joinWith "," (as.map write)).toList.length := by
    rw [← List.length_map write]
    refine length_le_joinWith fun t ht => ?_
    obtain ⟨a, ha, rfl⟩ := List.mem_map.mp ht
    obtain ⟨c, l, hcl, -⟩ := (h a ha).opens
    rw [hcl]
    exact List.cons_ne_nil c l
  exact elements_joinWith h (by rw [List.length_append]; omega) rest

/-- **A written pair is read back.** -/
theorem reads_pair {item : Reader α} {s t : String} {a b : α} (ha : Reads item s a)
    (hb : Reads item t b) : Reads (pair item) (writeList [s, t]) (a, b) := by
  refine reads_brackets (pairElements item) (fun l => rfl) ?_
  intro rest
  rw [toList_joinWith_cons, List.append_assoc, pairElements, bind_of_ok (ha.nextElement_first _)]
  simp only [Bool.not_true, Bool.false_eq_true, if_false]
  rw [bind_of_ok (ha.reads _ (.append _ (.bracket rest))),
    commaSeparated_cons, List.cons_append, List.append_assoc, bind_of_ok (hb.nextElement_comma _)]
  simp only [Bool.not_true, Bool.false_eq_true, if_false]
  rw [bind_of_ok (hb.reads _ (.append [] (.bracket rest)))]
  rfl

/-! ### Objects -/

theorem toList_writeObject (fields : List (String × String)) (rest : List Char) :
    (writeObject fields).toList ++ rest
      = '\x7b' :: ((Text.joinWith "," (fields.map writeMember)).toList ++ '\x7d' :: rest) := by
  rw [writeObject, String.toList_append, String.toList_append, List.append_assoc,
    List.append_assoc]
  rfl

theorem toList_writeMember (n text : String) (rest : List Char) :
    (writeMember (n, text)).toList ++ rest
      = (writeString n).toList ++ ':' :: (text.toList ++ rest) := by
  rw [writeMember, String.toList_append, String.toList_append, List.append_assoc,
    List.append_assoc]
  rfl

theorem toList_writeMember_eq_cons (n text : String) :
    ∃ l, (writeMember (n, text)).toList = '"' :: l := by
  have h := toList_writeMember n text []
  rw [List.append_nil, toList_writeString] at h
  exact ⟨_, h⟩

theorem colon_cons (l : List Char) : colon (':' :: l) = .ok ((), l) := rfl

/-! ### Choices -/

theorem variantName_writeString {vs : List (Variant α)} {v : Variant α} {n : String}
    (h : vs.find? (·.name = n) = some v) (rest : List Char) :
    variantName vs ((writeString n).toList ++ rest) = .ok (v, rest) := by
  rw [variantName, bind_of_ok (string_writeString n rest)]
  simp only [h]
  rfl

/-- **The name of a bare variant is read back.** -/
theorem reads_bare {vs : List (Variant α)} {v : Variant α} {n : String} {a : α}
    (h : vs.find? (·.name = n) = some v) (ha : v.bare = some a) :
    Reads (variant vs) (writeString n) a := by
  refine ⟨(reads_string n).opens, fun rest _ => ?_⟩
  have hpeek : peekPastSpace ((writeString n).toList ++ rest)
      = .ok (some '"', (writeString n).toList ++ rest) := by
    rw [toList_writeString]
    exact peekPastSpace_cons (by decide) _
  rw [variant, bind_of_ok hpeek]
  simp only
  rw [bind_of_ok (variantName_writeString h rest)]
  simp only [ha]
  rfl

/-- **A variant with contents is read back** from an object with one member. -/
theorem reads_tagged {vs : List (Variant α)} {v : Variant α} {n text : String} {a : α}
    (h : vs.find? (·.name = n) = some v) (ha : Reads v.contents text a) :
    Reads (variant vs) (writeObject [(n, text)]) a := by
  refine ⟨⟨'\x7b', _, by simpa using toList_writeObject [(n, text)] [], by decide, by decide⟩, ?_⟩
  intro rest _
  have htext : (Text.joinWith "," ([(n, text)].map writeMember)).toList ++ '\x7d' :: rest
      = (writeString n).toList ++ ':' :: (text.toList ++ '\x7d' :: rest) :=
    toList_writeMember n text _
  rw [toList_writeObject, htext, variant, bind_of_ok (peekPastSpace_cons (by decide) _)]
  simp only
  rw [bind_of_ok (drop_cons _ _), bind_of_ok (variantName_writeString h _),
    bind_of_ok (colon_cons _), bind_of_ok (ha.reads _ (.brace rest)),
    bind_of_ok (peekPastSpace_cons (by decide) _)]
  rfl

/-! ### Records -/

/-- Members that are read one after another take the record `s` to the record `t`. -/
inductive Fills (ms : List (Member σ)) : σ → List (String × String) → σ → Prop where
  | nil (s : σ) : Fills ms s [] s
  | cons {s s' t : σ} {n text : String} {fields : List (String × String)} {m : Member σ}
      (hm : ms.find? (·.name = n) = some m) (hr : Reads (m.read s) text s')
      (hf : Fills ms s' fields t) : Fills ms s ((n, text) :: fields) t

theorem nextMember_first (n text : String) (rest : List Char) :
    nextMember true ((writeMember (n, text)).toList ++ rest)
      = .ok (true, (writeMember (n, text)).toList ++ rest) := by
  obtain ⟨l, hl⟩ := toList_writeMember_eq_cons n text
  rw [hl]
  rfl

theorem nextMember_comma (n text : String) (rest : List Char) :
    nextMember false (',' :: ((writeMember (n, text)).toList ++ rest))
      = .ok (true, (writeMember (n, text)).toList ++ rest) := by
  obtain ⟨l, hl⟩ := toList_writeMember_eq_cons n text
  rw [hl]
  rfl

/-- One member that has not come yet, and then the others. -/
theorem members_step {ms : List (Member σ)} {m : Member σ} {s s' : σ}
    {n text : String} {seen : List String} (hm : ms.find? (·.name = n) = some m)
    (hr : Reads (m.read s) text s') (hn : n ∉ seen) {rest cs : List Char} (hrest : Follows rest)
    {first : Bool}
    (hnext : nextMember first cs = .ok (true, (writeMember (n, text)).toList ++ rest))
    (fuel : ℕ) :
    members ms (fuel + 1) first seen s cs = members ms fuel false (n :: seen) s' rest := by
  rw [members, bind_of_ok hnext]
  simp only [if_true]
  rw [toList_writeMember, toList_writeString, List.cons_append, List.append_assoc,
    List.singleton_append, bind_of_ok (drop_cons _ _), bind_of_ok (stringBody_escaped n _)]
  simp only [hm, if_neg hn]
  rw [bind_of_ok (colon_cons _), bind_of_ok (hr.reads rest hrest)]

/-- **The members behind the first one are read back**, one after another. -/
theorem members_commaSeparated {ms : List (Member σ)} {s t : σ}
    {fields : List (String × String)} (h : Fills ms s fields t) {seen : List String}
    (hn : ((fields.map Prod.fst).reverse ++ seen).Nodup) {fuel : ℕ} (hfuel : fields.length < fuel)
    (rest : List Char) :
    members ms fuel false seen s (commaSeparated (fields.map writeMember) ++ '\x7d' :: rest)
      = .ok ((t, (fields.map Prod.fst).reverse ++ seen), '\x7d' :: rest) := by
  obtain ⟨fuel, rfl⟩ := Nat.exists_eq_succ_of_ne_zero (Nat.ne_zero_of_lt hfuel)
  induction h generalizing seen fuel with
  | nil s => rfl
  | @cons s s' t n text fields m hm hr hf ih =>
    have hnames : (((n, text) :: fields).map Prod.fst).reverse ++ seen
        = (fields.map Prod.fst).reverse ++ n :: seen := by
      rw [List.map_cons, List.reverse_cons, List.append_assoc, List.singleton_append]
    rw [hnames] at hn ⊢
    have hseen : n ∉ seen := (List.nodup_cons.mp (List.nodup_append.mp hn).2.1).1
    have hlt := Nat.lt_of_succ_lt_succ hfuel
    obtain ⟨fuel, rfl⟩ := Nat.exists_eq_succ_of_ne_zero (Nat.ne_zero_of_lt hlt)
    rw [List.map_cons, commaSeparated_cons, List.cons_append, List.append_assoc,
      members_step hm hr hseen (.append _ (.brace rest))
        (nextMember_comma n text _)]
    exact ih hn fuel hlt

theorem members_joinWith {ms : List (Member σ)} {s t : σ}
    {fields : List (String × String)} (h : Fills ms s fields t)
    (hn : (fields.map Prod.fst).Nodup) {fuel : ℕ} (hfuel : fields.length < fuel)
    (rest : List Char) :
    members ms fuel true [] s
        ((Text.joinWith "," (fields.map writeMember)).toList ++ '\x7d' :: rest)
      = .ok ((t, (fields.map Prod.fst).reverse), '\x7d' :: rest) := by
  obtain ⟨fuel, rfl⟩ := Nat.exists_eq_succ_of_ne_zero (Nat.ne_zero_of_lt hfuel)
  cases h with
  | nil s => rfl
  | @cons s s' t n text fields m hm hr hf =>
    rw [List.map_cons, toList_joinWith_cons, List.append_assoc,
      members_step hm hr List.not_mem_nil (.append _ (.brace rest))
        (nextMember_first n text _)]
    rw [List.map_cons, List.reverse_cons]
    refine members_commaSeparated hf ?_ (Nat.lt_of_succ_lt_succ hfuel) rest
    rw [← List.reverse_cons, List.nodup_reverse]
    exact hn

/-- **A record is read back from the object of all its members**, whether they are required or
not. -/
theorem reads_record {ms : List (Member σ)} {start t : σ}
    {fields : List (String × String)} (h : Fills ms start fields t)
    (hnames : fields.map Prod.fst = ms.map Member.name) (hn : (ms.map Member.name).Nodup)
    (expected : String) (strict : Bool) :
    Reads (record expected ms strict start) (writeObject fields) t := by
  refine ⟨⟨'\x7b', _, by simpa using toList_writeObject fields [], by decide, by decide⟩, ?_⟩
  intro rest _
  have hfuel : fields.length
      < ((Text.joinWith "," (fields.map writeMember)).toList ++ '\x7d' :: rest).length + 1 := by
    have hlen : fields.length ≤ (Text.joinWith "," (fields.map writeMember)).toList.length := by
      rw [← List.length_map writeMember]
      refine length_le_joinWith fun t ht => ?_
      obtain ⟨f, -, rfl⟩ := List.mem_map.mp ht
      obtain ⟨l, hl⟩ := toList_writeMember_eq_cons f.1 f.2
      rw [hl]
      exact List.cons_ne_nil _ l
    rw [List.length_append]
    omega
  have hmembers := members_joinWith h (hnames ▸ hn) hfuel rest
  have hall : ms.find? (fun m => m.required && !(fields.map Prod.fst).reverse.contains m.name)
      = none := by
    rw [List.find?_eq_none, hnames]
    intro m hm
    have hmem : m.name ∈ ms.map Member.name := List.mem_map_of_mem hm
    simp only [List.contains_reverse, List.contains_iff_mem.mpr hmem, Bool.not_true, Bool.and_false,
      Bool.false_eq_true, not_false_eq_true]
  have hcontents : recordMembers ms start
      ((Text.joinWith "," (fields.map writeMember)).toList ++ '\x7d' :: rest)
        = .ok (t, '\x7d' :: rest) := by
    rw [recordMembers,
      bind_of_ok (r := fun cs => members ms (cs.length + 1) true [] start cs) hmembers]
    simp only [hall]
    rfl
  rw [toList_writeObject, record]
  apply placed_of_ok
  rw [bind_of_ok (peekValue_cons (by decide) _)]
  exact enclosed_of_ok hcontents rfl

end ShaderConvert.Json.Reader
