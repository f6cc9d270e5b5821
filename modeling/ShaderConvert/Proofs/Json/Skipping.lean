import Mathlib.Tactic
import ShaderConvert.Proofs.Json.Grammar
import ShaderConvert.Proofs.Json.RoundTrip

/-
A value that is passed over is passed over exactly.

An unknown member of an object may hold any value at all, and the reader remembers of it only which
lists and objects are open.  So the induction over the text of a value is about a reader that is
inside any frames: behind the value it goes on (`resume`) as it would behind any other value, and
behind the last element or member of a frame as it would outside that frame (`Passes`).  Each step
takes at least one sign off the text, so the fuel lasts (`Leads`).

Strings and numbers have no frames: they are passed over sign by sign (`skipString_of_quoted`,
`skipNumber_of_unsigned`).

The main statement is `skip_of_spells`.
-/
namespace ShaderConvert.Json

open Reader

theorem Run.dropWhile {p : Char → Bool} {cs rest : List Char} (h : Run p cs rest) :
    cs.dropWhile p = rest.dropWhile p := by
  induction h with
  | none rest => rfl
  | more hc h ih => rw [List.dropWhile_cons_of_pos hc, ih]

theorem run_append {p : Char → Bool} {ds rest : List Char} (h : ∀ d ∈ ds, p d = true) :
    Run p (ds ++ rest) rest := by
  induction ds with
  | nil => exact .none rest
  | cons d ds ih =>
    exact .more (h d List.mem_cons_self) (ih fun x hx => h x (List.mem_cons_of_mem d hx))

/-- The digits of a natural number are a number. -/
theorem unsigned_toDigits (n : ℕ) (rest : List Char) :
    Unsigned (Nat.toDigits 10 n ++ rest) rest := by
  refine ⟨?_, .absent rest, .absent rest⟩
  by_cases hz : n = 0
  · subst hz
    exact .zero rest
  · obtain ⟨c, l, hcl, hc⟩ := toDigits_eq_cons hz
    have hall : ∀ d ∈ c :: l, isDigit d = true := fun d hd => isDigit_of_mem (hcl ▸ hd)
    rw [hcl]
    exact .digits (hall c List.mem_cons_self) hc
      (run_append fun d hd => hall d (List.mem_cons_of_mem c hd))

/-- A number has digits, maybe behind a sign. -/
theorem Figures.unsigned {n : Option ℕ} {cs rest : List Char} (h : Figures n cs rest) :
    Unsigned cs rest ∨ ∃ l, cs = '-' :: l ∧ Unsigned l rest := by
  cases h with
  | natural n _ => exact .inl (unsigned_toDigits n rest)
  | positive h => exact .inl h
  | negative h => exact .inr ⟨_, rfl, h⟩

theorem Unsigned.opens {cs rest : List Char} (h : Unsigned cs rest) :
    ∃ c l, cs = c :: l ∧ isDigit c = true := by
  obtain ⟨hi, -, -⟩ := h
  cases hi with
  | zero _ => exact ⟨'0', _, rfl, by decide⟩
  | digits hc hz h => exact ⟨_, _, rfl, hc⟩

/-- **A value begins with a sign of its own**, which is no blank and closes no list. -/
theorem Spells.opens {v : Value} {cs rest : List Char} (h : Spells (.value v) cs rest) :
    ∃ c l, cs = c :: l ∧ isSpace c = false ∧ c ≠ ']' := by
  cases h with
  | null _ => exact ⟨'n', _, rfl, by decide, by decide⟩
  | bool b _ =>
    cases b with
    | false => exact ⟨'f', _, rfl, by decide, by decide⟩
    | true => exact ⟨'t', _, rfl, by decide, by decide⟩
  | number h =>
    rcases h.unsigned with h | ⟨l, rfl, -⟩
    · obtain ⟨c, l, rfl, hc⟩ := h.opens
      exact ⟨c, l, rfl, isSpace_of_isDigit hc, ne_of_isDigit hc (by decide)⟩
    · exact ⟨'-', l, rfl, by decide, by decide⟩
  | string h => exact ⟨'"', _, rfl, by decide, by decide⟩
  | list h => exact ⟨'[', _, rfl, by decide, by decide⟩
  | object h => exact ⟨'\x7b', _, rfl, by decide, by decide⟩

namespace Reader

/-! ### Blanks -/

theorem peekPastSpace_blanks {c : Char} {cs rest : List Char} (h : Blanks cs (c :: rest))
    (hc : isSpace c = false) : peekPastSpace cs = .ok (some c, c :: rest) := by
  rw [← peekPastSpace_cons hc, peekPastSpace, peekPastSpace, Run.dropWhile h]

theorem peekValue_blanks {c : Char} {cs rest : List Char} (h : Blanks cs (c :: rest))
    (hc : isSpace c = false) : peekValue cs = .ok (c, c :: rest) := by
  rw [peekValue, bind_of_ok (peekPastSpace_blanks h hc)]
  rfl

/-! ### Strings -/

theorem hexValue?_of_isHex {c : Char} {n : ℕ} (h : IsHex c n) : hexValue? c = some n := by
  obtain ⟨hn, hc⟩ := h
  have hall : ∀ n < 16, hexValue? n.digitChar = some n ∧ hexValue? n.digitChar.toUpper = some n := by
    decide
  rcases hc with rfl | rfl
  · exact (hall n hn).1
  · exact (hall n hn).2

theorem four_le_size (a b c d : Char) : 4 ≤ Utf8.size [a, b, c, d] := by
  have ha := a.utf8Size_pos
  have hb := b.utf8Size_pos
  have hc := c.utf8Size_pos
  have hd := d.utf8Size_pos
  show 4 ≤ 0 + a.utf8Size + b.utf8Size + c.utf8Size + d.utf8Size
  omega

/-- Four digits are read as the code unit they write. -/
theorem fourHex_of_codeUnit {n : ℕ} {cs rest : List Char} (h : CodeUnit n cs rest) :
    fourHex cs = .ok (n, rest) := by
  obtain @⟨a, b, c, d, k, l, m, n, ha, hb, hc, hd, _⟩ := h
  have hdigits : [a, b, c, d].filterMap hexValue? = [k, l, m, n] := by
    simp [hexValue?_of_isHex ha, hexValue?_of_isHex hb, hexValue?_of_isHex hc,
      hexValue?_of_isHex hd]
  have hsize : ¬ Utf8.size [a, b, c, d] < 4 := Nat.not_lt.mpr (four_le_size a b c d)
  show (if Utf8.size [a, b, c, d] < 4 then _ else _) = _
  rw [if_neg hsize]
  show (if ([a, b, c, d].filterMap hexValue?).length = 4 then _ else _) = _
  simp [hdigits]

theorem simpleEscape?_of_mem {c d : Char} (h : (d, c) ∈ escapes) : simpleEscape? d = some c := by
  have hall : ∀ p ∈ escapes, simpleEscape? p.1 = some p.2 := by decide
  exact hall (d, c) h

/-- One sign inside quotes is passed over. -/
theorem skipStringTail_sign {cs rest : List Char} (h : Sign cs rest) (fuel : ℕ) :
    skipStringTail (fuel + 1) cs = skipStringTail fuel rest := by
  cases h with
  | @plain c hc rest =>
    obtain ⟨hquote, hslash, hlow⟩ := hc
    rw [skipStringTail]
    show (if c = '"' then _ else _ : Reader Unit) (c :: rest) = _
    rw [if_neg hquote, if_neg hslash, if_neg (Nat.not_lt.mpr hlow)]
    rfl
  | @escape c d h rest =>
    have hskip : skipEscape (d :: rest) = .ok ((), rest) := by
      show (if (simpleEscape? d).isSome then _ else _ : Reader Unit) rest = _
      rw [simpleEscape?_of_mem h]
      rfl
    show (skipEscape >>= fun _ => skipStringTail fuel) (d :: rest) = _
    rw [bind_of_ok hskip]
  | @unit n cs rest h =>
    have hskip : skipEscape ('u' :: cs) = .ok ((), rest) := by
      show (fourHex >>= fun _ => pure ()) cs = _
      rw [bind_of_ok (fourHex_of_codeUnit h)]
      rfl
    show (skipEscape >>= fun _ => skipStringTail fuel) ('u' :: cs) = _
    rw [bind_of_ok hskip]

theorem skipStringTail_signs {cs rest : List Char} (h : Signs cs rest) {fuel : ℕ}
    (hfuel : cs.length < fuel) : skipStringTail fuel cs = .ok ((), rest) := by
  obtain ⟨fuel, rfl⟩ := Nat.exists_eq_succ_of_ne_zero (Nat.ne_zero_of_lt hfuel)
  induction h generalizing fuel with
  | close rest => rfl
  | more h hs ih =>
    have hlt := Nat.lt_of_lt_of_le h.length_lt (Nat.le_of_lt_succ hfuel)
    obtain ⟨fuel, rfl⟩ := Nat.exists_eq_succ_of_ne_zero (Nat.ne_zero_of_lt hlt)
    rw [skipStringTail_sign h]
    exact ih fuel hlt

/-- **A string is passed over up to its closing quote**, whether its code units are paired or
not. -/
theorem skipString_of_quoted {s : Option String} {cs rest : List Char} (h : Quoted s cs rest) :
    skipString cs = .ok ((), rest) :=
  skipStringTail_signs h.signs (Nat.lt_succ_self _)

/-! ### Numbers -/

/-- The digits that come next are all there are. -/
theorem digits_of_run {cs rest : List Char} (h : Run isDigit cs rest)
    (hrest : ∀ c ∈ rest.head?, isDigit c = false) :
    digits cs = .ok (cs.takeWhile isDigit, rest) := by
  have hstop : rest.dropWhile isDigit = rest := by
    cases rest with
    | nil => rfl
    | cons c rest => exact List.dropWhile_cons_of_neg (by simp [hrest c rfl])
  rw [digits, Run.dropWhile h, hstop]

theorem skipDigits_of_digits {cs rest : List Char} (h : Digits cs rest)
    (hrest : ∀ c ∈ rest.head?, isDigit c = false) : skipDigits cs = .ok ((), rest) := by
  obtain @⟨c, cs, _, hc, h⟩ := h
  show (if isDigit c = true then digits >>= fun _ => pure () else _ : Reader Unit) (c :: cs) = _
  rw [if_pos hc, bind_of_ok (digits_of_run (.more hc h) hrest)]
  rfl

theorem skipInteger_of_integerPart {cs rest : List Char} (h : IntegerPart cs rest)
    (hrest : ∀ c ∈ rest.head?, isDigit c = false) : skipInteger cs = .ok ((), rest) := by
  cases h with
  | zero _ =>
    cases rest with
    | nil => rfl
    | cons c rest =>
      show (if isDigit c = true then failNext .badNumber else pure () : Reader Unit) (c :: rest) = _
      rw [if_neg (by simp [hrest c rfl])]
      rfl
  | @digits c cs _ hc hz h =>
    show (if some c = some '0' then _ else skipDigits : Reader Unit) (c :: cs) = _
    rw [if_neg (by simpa using hz)]
    exact skipDigits_of_digits (.mk hc h) hrest

theorem skipFraction_of_fractionPart {cs rest : List Char} (h : FractionPart cs rest)
    (hrest : ∀ c ∈ rest.head?, isDigit c = false ∧ c ≠ '.') : skipFraction cs = .ok ((), rest) := by
  cases h with
  | absent _ =>
    have hpoint : cs.head? ≠ some '.' := fun h => (hrest _ h).2 rfl
    show (if cs.head? = some '.' then _ else pure () : Reader Unit) cs = _
    rw [if_neg hpoint]
    rfl
  | @present cs _ h =>
    obtain @⟨c, cs, _, hc, h⟩ := h
    have hds := digits_of_run (.more hc h) fun c hc => (hrest c hc).1
    show (digits >>= fun ds => if ds.isEmpty then failNext .badNumber else pure ()) (c :: cs) = _
    rw [bind_of_ok hds, List.takeWhile_cons_of_pos hc]
    rfl

/-- The digits of an exponent stand behind its sign. -/
theorem skipExponent_of_exponentPart {cs rest : List Char} (h : ExponentPart cs rest)
    (hrest : Delimits rest) : skipExponent cs = .ok ((), rest) := by
  have hdigits {l : List Char} (h : Digits l rest) : skipDigits l = .ok ((), rest) :=
    skipDigits_of_digits h fun c hc => (hrest.head hc).1
  cases h with
  | absent _ =>
    have hmark : ¬ (cs.head? = some 'e' ∨ cs.head? = some 'E') := by
      rintro (h | h)
      · exact (hrest.head h).2.2.1 rfl
      · exact (hrest.head h).2.2.2 rfl
    show (if cs.head? = some 'e' ∨ cs.head? = some 'E' then _ else pure () : Reader Unit) cs = _
    rw [if_neg hmark]
    rfl
  | @unsigned e cs _ he h =>
    obtain @⟨c, cs, _, hc, hrun⟩ := id h
    have hsign : ¬ (some c = some '+' ∨ some c = some '-') := by
      rintro (h | h) <;> cases h <;> cases hc
    have hmark : some e = some 'e' ∨ some e = some 'E' := by simpa using he
    show (if some e = some 'e' ∨ some e = some 'E' then _ else pure () : Reader Unit) _ = _
    rw [if_pos hmark, bind_of_ok (drop_cons e (c :: cs))]
    show (if some c = some '+' ∨ some c = some '-' then _ else skipDigits : Reader Unit) _ = _
    rw [if_neg hsign]
    exact hdigits h
  | @signed e s cs _ he hs h =>
    rw [← hdigits h]
    rcases he with rfl | rfl <;> rcases hs with rfl | rfl <;> rfl

/-- **A number is passed over** up to a sign that delimits. -/
theorem skipNumber_of_unsigned {cs rest : List Char} (h : Unsigned cs rest)
    (hrest : Delimits rest) : skipNumber cs = .ok ((), rest) := by
  obtain ⟨hi, hf, he⟩ := h
  have hinteger := skipInteger_of_integerPart hi fun c hc =>
    hf.head (fun c hc => (he.head hrest hc).1) hc
  have hfraction := skipFraction_of_fractionPart hf fun c hc => he.head hrest hc
  rw [skipNumber, bind_of_ok hinteger, bind_of_ok hfraction]
  exact skipExponent_of_exponentPart he hrest

/-! ### Values -/

theorem skipKey_of_key {k : Option String} {cs rest : List Char} (h : Key k cs rest) :
    skipKey cs = .ok ((), rest) := by
  obtain ⟨hcs, hk, hb⟩ := h
  rw [skipKey, bind_of_ok (peekPastSpace_blanks hcs (by decide))]
  simp only
  rw [bind_of_ok (drop_cons _ _), bind_of_ok (skipString_of_quoted hk),
    bind_of_ok (peekPastSpace_blanks hb (by decide))]
  rfl

/-- What is done where a value has ended, or where a list or an object has been opened. -/
def resume (comma : Bool) (frames : List Frame) (fuel : ℕ) : Reader Unit := do
  match ← skipClose (frames.length + 1) comma frames with
  | none => pure ()
  | some frames =>
    if frames.head? = some .object then skipKey
    skipWithin fuel frames

theorem skipWithin_succ (fuel : ℕ) (frames : List Frame) :
    skipWithin (fuel + 1) frames = skipFront frames >>= fun p => resume p.1 p.2 fuel := rfl

/-- A reader that goes on as another one from another place. -/
theorem bind_of_eq {α β : Type} {x y : Reader α} {cs cs' : List Char} (h : x cs = y cs')
    (f : α → Reader β) : (x >>= f) cs = (y >>= f) cs' := by
  show (x cs >>= fun p => f p.1 p.2) = (y cs' >>= fun p => f p.1 p.2)
  rw [h]

/-- The sign that closes a frame. -/
def Frame.closing : Frame → Char
  | .list => ']'
  | .object => '\x7d'

section Frames

variable {frames : List Frame} {fuel : ℕ} {first comma : Bool} {cs a b rest : List Char}

/-- A frame is closed by its sign, whether a value stands before it or not. -/
theorem resume_closing (f : Frame) (h : Blanks cs (f.closing :: rest)) :
    resume comma (f :: frames) fuel cs = resume true frames fuel rest := by
  refine bind_of_eq ?_ _
  cases f with
  | list =>
    rw [List.length_cons, skipClose, bind_of_ok (peekPastSpace_blanks h (by decide))]
    rfl
  | object =>
    rw [List.length_cons, skipClose, bind_of_ok (peekPastSpace_blanks h (by decide))]
    rfl

/-- Inside a frame what separates the next value is passed over. -/
theorem skipClose_of_separator (f : Frame) (hs : Separator first cs a) {c : Char}
    (ha : Blanks a (c :: b)) (hspace : isSpace c = false) (hc : c ≠ f.closing) (n : ℕ) :
    ∃ a', Blanks a' (c :: b) ∧ a'.length ≤ cs.length ∧
      skipClose (n + 1) (!first) (f :: frames) cs = .ok (some (f :: frames), a') := by
  cases hs with
  | first _ =>
    refine ⟨c :: b, .none _, ha.length_le, ?_⟩
    have hopen : ¬ ((c = ']' ∧ f = .list) ∨ (c = '\x7d' ∧ f = .object)) := by
      rintro (⟨h, rfl⟩ | ⟨h, rfl⟩)
      · exact hc h
      · exact hc h
    rw [skipClose, bind_of_ok (peekPastSpace_blanks ha hspace)]
    simp only [Bool.not_true, Bool.false_eq_true, and_false, if_false, if_neg hopen]
    rfl
  | comma h =>
    refine ⟨a, ha, (Separator.comma h).length_le, ?_⟩
    rw [skipClose, bind_of_ok (peekPastSpace_blanks h (by decide))]
    rfl

theorem resume_element (hs : Separator first cs a) {v : Value} (ha : Blanks a b)
    (hv : Spells (.value v) b rest) :
    ∃ a', Blanks a' b ∧ a'.length ≤ cs.length ∧
      resume (!first) (.list :: frames) fuel cs = skipWithin fuel (.list :: frames) a' := by
  obtain ⟨c, l, rfl, hspace, hc⟩ := hv.opens
  obtain ⟨a', ha', hle, hclose⟩ := skipClose_of_separator .list hs ha hspace hc _
  exact ⟨a', ha', hle, bind_of_ok hclose⟩

theorem resume_member (hs : Separator first cs a) {k : Option String} (hk : Key k a b) :
    resume (!first) (.object :: frames) fuel cs = skipWithin fuel (.object :: frames) b := by
  obtain ⟨ha, hq, hb⟩ := hk
  obtain ⟨a', ha', -, hclose⟩ := skipClose_of_separator .object hs ha (by decide) (by decide) _
  have hkey := skipKey_of_key (.mk ha' hq hb)
  rw [resume, bind_of_ok hclose]
  exact bind_of_ok hkey

end Frames

/-- Passing over a text from one place to another, with enough fuel for the text in both. -/
def Leads (f : ℕ → Reader Unit) (cs : List Char) (g : ℕ → Reader Unit) (rest : List Char) : Prop :=
  ∀ fuel, cs.length ≤ fuel → ∃ fuel', rest.length ≤ fuel' ∧ f fuel cs = g fuel' rest

theorem Leads.trans {f g h : ℕ → Reader Unit} {a b c : List Char} (hfg : Leads f a g b)
    (hgh : Leads g b h c) : Leads f a h c := by
  intro fuel hfuel
  obtain ⟨fuel₁, hfuel₁, h₁⟩ := hfg fuel hfuel
  obtain ⟨fuel₂, hfuel₂, h₂⟩ := hgh fuel₁ hfuel₁
  exact ⟨fuel₂, hfuel₂, h₁.trans h₂⟩

/-- The front of a value is passed over, and then what it opens. -/
theorem leads_front {frames frames' : List Frame} {comma : Bool} {c : Char} {cs l rest : List Char}
    (h : Blanks cs (c :: l)) (hspace : isSpace c = false)
    (hfront : skipFront frames (c :: l) = .ok ((comma, frames'), rest))
    (hrest : rest.length ≤ l.length) :
    Leads (skipWithin · frames) cs (resume comma frames') rest := by
  intro fuel hfuel
  have hlen := h.length_le
  rw [List.length_cons] at hlen
  obtain ⟨fuel, rfl⟩ : ∃ n, fuel = n + 1 := ⟨fuel - 1, by omega⟩
  have hsame : skipFront frames cs = skipFront frames (c :: l) := by
    refine bind_of_eq ?_ _
    rw [peekValue_blanks h hspace, peekValue_cons hspace]
  refine ⟨fuel, by omega, ?_⟩
  simp only [skipWithin_succ]
  exact bind_of_ok (hsame.trans hfront)

/-- A part of a text is passed over: a value inside any frames, or what is left of the innermost
frame. -/
def Passes : Part → List Char → List Char → Prop
  | .value _, a, rest => ∀ frames cs, Blanks cs a → Delimits rest →
      Leads (skipWithin · frames) cs (resume true frames) rest
  | .elements first _, cs, rest => ∀ frames,
      Leads (resume (!first) (.list :: frames)) cs (resume true frames) rest
  | .members first _, cs, rest => ∀ frames,
      Leads (resume (!first) (.object :: frames)) cs (resume true frames) rest

/-- A digit opens a number. -/
theorem skipFront_digit {c : Char} (hc : isDigit c = true) (l : List Char) (frames : List Frame) :
    skipFront frames (c :: l) = (skipNumber >>= fun _ => pure (true, frames)) (c :: l) := by
  have hn : c ≠ 'n' := ne_of_isDigit hc (by decide)
  have ht : c ≠ 't' := ne_of_isDigit hc (by decide)
  have hf : c ≠ 'f' := ne_of_isDigit hc (by decide)
  have hminus : c ≠ '-' := ne_of_isDigit hc (by decide)
  rw [skipFront, bind_of_ok (peekValue_cons (isSpace_of_isDigit hc) l)]
  simp only [if_neg hn, if_neg ht, if_neg hf, if_neg hminus, if_pos hc]

theorem passes_number {n : Option ℕ} {cs rest : List Char} (h : Figures n cs rest) :
    Passes (.value (.number n)) cs rest := by
  intro frames cs' hcs hrest
  rcases h.unsigned with h | ⟨l, rfl, hl⟩
  · obtain ⟨c, l, rfl, hc⟩ := h.opens
    refine leads_front hcs (isSpace_of_isDigit hc) ?_ (Nat.le_of_lt_succ h.length_lt)
    rw [skipFront_digit hc, bind_of_ok (skipNumber_of_unsigned h hrest)]
    rfl
  · refine leads_front hcs (by decide) ?_ hl.length_lt.le
    show (skipNumber >>= fun _ => pure (true, frames)) l = _
    rw [bind_of_ok (skipNumber_of_unsigned hl hrest)]
    rfl

theorem passes_string {s : Option String} {cs rest : List Char} (h : Quoted s cs rest) :
    Passes (.value (.string s)) ('"' :: cs) rest := by
  intro frames cs' hcs hrest
  refine leads_front hcs (by decide) ?_ h.signs.length_lt.le
  show (skipString >>= fun _ => pure (true, frames)) cs = _
  rw [bind_of_ok (skipString_of_quoted h)]
  rfl

/-- **Every part of a text is passed over exactly.** -/
theorem passes_of_spells {p : Part} {cs rest : List Char} (h : Spells p cs rest) :
    Passes p cs rest := by
  induction h with
  | null rest => exact fun frames cs hcs _ => leads_front hcs (by decide) rfl (by simp; omega)
  | bool b rest =>
    intro frames cs hcs _
    cases b with
    | false => exact leads_front hcs (by decide) rfl (by simp; omega)
    | true => exact leads_front hcs (by decide) rfl (by simp; omega)
  | number h => exact passes_number h
  | string h => exact passes_string h
  | list h ih =>
    intro frames cs hcs _
    have hopen : Leads (skipWithin · frames) cs (resume false (.list :: frames)) _ :=
      leads_front hcs (by decide) rfl (Nat.le_refl _)
    exact hopen.trans (ih frames)
  | object h ih =>
    intro frames cs hcs _
    have hopen : Leads (skipWithin · frames) cs (resume false (.object :: frames)) _ :=
      leads_front hcs (by decide) rfl (Nat.le_refl _)
    exact hopen.trans (ih frames)
  | endList h =>
    intro frames fuel hfuel
    exact ⟨fuel, (Nat.le_of_succ_le h.length_le).trans hfuel, resume_closing .list h⟩
  | element hcs ha hv h ihv ih =>
    intro frames fuel hfuel
    obtain ⟨a', ha', hle, hresume⟩ := resume_element hcs ha hv
    obtain ⟨fuel', hfuel', hrest⟩ :=
      (ihv (.list :: frames) a' ha' h.delimits_elements).trans (ih frames) fuel (hle.trans hfuel)
    exact ⟨fuel', hfuel', hresume.trans hrest⟩
  | endObject h =>
    intro frames fuel hfuel
    exact ⟨fuel, (Nat.le_of_succ_le h.length_le).trans hfuel, resume_closing .object h⟩
  | member hcs hk hb hv h ihv ih =>
    intro frames fuel hfuel
    have hle := hk.length_lt.le.trans hcs.length_le
    obtain ⟨fuel', hfuel', hrest⟩ :=
      (ihv (.object :: frames) _ hb h.delimits_members).trans (ih frames) fuel (hle.trans hfuel)
    exact ⟨fuel', hfuel', (resume_member hcs hk).trans hrest⟩

/-- **Passing over a value takes its text off the input, and nothing else**, whatever lists and
objects lie in each other. -/
theorem skip_of_spells {v : Value} {cs a rest : List Char} (hcs : Blanks cs a)
    (h : Spells (.value v) a rest) (hrest : Delimits rest) : skip cs = .ok ((), rest) := by
  obtain ⟨fuel, -, hskip⟩ := passes_of_spells h [] cs hcs hrest (cs.length + 1) (Nat.le_succ _)
  exact hskip

end Reader

end ShaderConvert.Json
