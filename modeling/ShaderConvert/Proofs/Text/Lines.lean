import Mathlib.Tactic
import ShaderConvert.Proofs.Utf8RoundTrip
import ShaderConvert.Text.Lines

/-
A text cut at one of its lines.

`Text.linesFrom` collects the lines of a text while it walks along.  A `LineCut` says what a line is
without walking: whole lines with their feeds in front of it, no feed inside it, and behind it a
feed or the end of the text.

* `lines_induction` — induction over the lines of a text;
* `LineCut.exists_holding` — every byte offset of a text, its end included, lies in some line;
* `LineCut.lines` — the walk finds a line behind as many others as there are feeds before it, without
  its feed and the carriage return before that; an empty line at the very end it leaves out;
* `trim_dropReturn` — a carriage return at the end of a line is nothing to a trimmed line.
-/
namespace ShaderConvert.Text

/-! ### Whole lines -/

/-- Lines with a line feed behind each. -/
def fed (ls : List (List Char)) : List Char := ls.flatMap (· ++ ['\n'])

theorem fed_cons (l : List Char) (ls : List (List Char)) : fed (l :: ls) = l ++ '\n' :: fed ls := by
  rw [fed, List.flatMap_cons, List.append_assoc]
  rfl

theorem fed_append (ls ms : List (List Char)) : fed (ls ++ ms) = fed ls ++ fed ms :=
  List.flatMap_append

/-- Whole lines are nothing, or they end in a line feed. -/
theorem fed_eq_nil_or (ls : List (List Char)) : fed ls = [] ∨ ∃ cs, fed ls = cs ++ ['\n'] := by
  rcases ls.eq_nil_or_concat with rfl | ⟨ms, l, rfl⟩
  · exact .inl rfl
  · refine .inr ⟨fed ms ++ l, ?_⟩
    rw [List.concat_eq_append, fed_append, fed_cons, List.append_assoc]
    rfl

/-- Induction over the lines of a text, from the last one. -/
@[elab_as_elim]
theorem lines_induction {motive : List Char → Prop} (last : ∀ l, '\n' ∉ l → motive l)
    (feed : ∀ l r, '\n' ∉ l → motive r → motive (l ++ '\n' :: r)) (cs : List Char) : motive cs := by
  by_cases hmem : '\n' ∈ cs
  · obtain ⟨l, r, rfl, hl⟩ := List.eq_append_cons_of_mem hmem
    have hshort : r.length < (l ++ '\n' :: r).length := by
      rw [List.length_append, List.length_cons]
      omega
    exact feed l r hl (lines_induction last feed r)
  · exact last cs hmem
termination_by cs.length

/-! ### The walk along the lines -/

theorem linesFrom_feed {l : List Char} (h : '\n' ∉ l) (line r : List Char) :
    linesFrom line (l ++ '\n' :: r) = dropReturn (line.reverse ++ l) :: linesFrom [] r := by
  induction l generalizing line with
  | nil => simp [linesFrom]
  | cons c l ih =>
    obtain ⟨hc, hl⟩ := not_or.mp (mt List.mem_cons.mpr h)
    rw [List.cons_append, linesFrom, if_neg (Ne.symm hc), ih hl, List.reverse_cons,
      List.append_assoc]
    rfl

theorem linesFrom_end {l : List Char} (h : '\n' ∉ l) (line : List Char) :
    linesFrom line l = if line.reverse ++ l = [] then [] else [line.reverse ++ l] := by
  induction l generalizing line with
  | nil => simp [linesFrom]
  | cons c l ih =>
    obtain ⟨hc, hl⟩ := not_or.mp (mt List.mem_cons.mpr h)
    rw [linesFrom, if_neg (Ne.symm hc), ih hl, List.reverse_cons, List.append_assoc]
    rfl

theorem linesFrom_fed {ls : List (List Char)} (h : ∀ l ∈ ls, '\n' ∉ l) (r : List Char) :
    linesFrom [] (fed ls ++ r) = ls.map dropReturn ++ linesFrom [] r := by
  induction ls with
  | nil => rfl
  | cons l ls ih =>
    obtain ⟨hl, hls⟩ := List.forall_mem_cons.mp h
    rw [fed_cons, List.append_assoc, List.cons_append, linesFrom_feed hl, ih hls]
    rfl

/-! ### Trimmed lines -/

/-- A blank at the end of a line is trimmed away. -/
theorem trim_append_blank (l : List Char) {c : Char} (hc : isBlank c = true) :
    trim (l ++ [c]) = trim l := by
  have hend : ∀ l, trimEnd (l ++ [c]) = trimEnd l := by
    intro l
    rw [trimEnd, trimEnd, List.reverse_append, List.reverse_singleton, List.singleton_append,
      List.dropWhile_cons_of_pos hc]
  rw [trim, trim, trimStart, trimStart, List.dropWhile_append]
  split_ifs with hnil
  · rw [List.isEmpty_iff.mp hnil, List.dropWhile_cons_of_pos hc]
    rfl
  · exact hend _

theorem trim_dropReturn (l : List Char) : trim (dropReturn l) = trim l := by
  rw [dropReturn]
  split_ifs with hlast
  · obtain ⟨ds, rfl⟩ := List.getLast?_eq_some_iff.mp hlast
    rw [List.dropLast_concat, trim_append_blank ds (by decide)]
  · rfl

/-- What starts with no blank keeps its first character. -/
theorem trim_cons {c : Char} (hc : isBlank c = false) (l : List Char) :
    trim (c :: l) = c :: trimEnd l := by
  have hstop : ¬ isBlank c = true := Bool.eq_false_iff.mp hc
  rw [trim, trimStart, List.dropWhile_cons_of_neg hstop, trimEnd, trimEnd, List.reverse_cons,
    List.dropWhile_append]
  split_ifs with hnil
  · rw [List.isEmpty_iff.mp hnil, List.dropWhile_cons_of_neg hstop]
    rfl
  · rw [List.reverse_append]
    rfl

/-! ### A text cut at a line -/

/-- What stands behind a line: nothing, or a line feed and the rest of the text. -/
def feedThen : Option (List Char) → List Char
  | none => []
  | some r => '\n' :: r

/-- A text cut at one of its lines.  The last line of a text has no line feed. -/
structure LineCut (cs : List Char) where
  before : List (List Char)
  line : List Char
  rest : Option (List Char)
  text : fed before ++ (line ++ feedThen rest) = cs
  before_whole : ∀ l ∈ before, '\n' ∉ l
  line_whole : '\n' ∉ line

namespace LineCut

variable {cs : List Char}

/-- The line as it is shown: without the carriage return before its line feed. -/
def shown (x : LineCut cs) : List Char :=
  match x.rest with
  | none => x.line
  | some _ => dropReturn x.line

/-- Lines are numbered from one. -/
def number (x : LineCut cs) : ℕ := x.before.length + 1

/-- The byte offset at which the line starts. -/
def start (x : LineCut cs) : ℕ := Utf8.size (fed x.before)

/-- The byte at offset `p` belongs to the line or is the line feed behind it; at the end of a text
it is the end that belongs to the last line. -/
def Holds (x : LineCut cs) (p : ℕ) : Prop := x.start ≤ p ∧ p ≤ x.start + Utf8.size x.line

/-- The same line, with one more line in front of it. -/
def behind {l : List Char} (h : '\n' ∉ l) (x : LineCut cs) : LineCut (l ++ '\n' :: cs) where
  before := l :: x.before
  line := x.line
  rest := x.rest
  text := by rw [fed_cons, List.append_assoc, List.cons_append, x.text]
  before_whole := List.forall_mem_cons.mpr ⟨h, x.before_whole⟩
  line_whole := x.line_whole

theorem start_behind {l : List Char} (h : '\n' ∉ l) (x : LineCut cs) :
    (x.behind h).start = Utf8.size l + 1 + x.start := by
  have hfeed : '\n'.utf8Size = 1 := rfl
  rw [start, start, behind, fed_cons, Utf8.size_append, Utf8.size_cons, hfeed, Nat.add_assoc]

/-- The only line of a text without line feeds. -/
def only {l : List Char} (h : '\n' ∉ l) : LineCut l :=
  ⟨[], l, none, List.append_nil l, nofun, h⟩

/-- The first line of a text with line feeds. -/
def first {l : List Char} (h : '\n' ∉ l) (r : List Char) : LineCut (l ++ '\n' :: r) :=
  ⟨[], l, some r, rfl, nofun, h⟩

theorem holds_of_before_nil {x : LineCut cs} (h : x.before = []) {p : ℕ}
    (hp : p ≤ Utf8.size x.line) : x.Holds p := by
  rw [Holds, start, h]
  exact ⟨Nat.zero_le p, hp.trans (Nat.le_add_left _ _)⟩

/-- **Every offset lies in some line.** -/
theorem exists_holding (cs : List Char) {p : ℕ} (hp : p ≤ Utf8.size cs) :
    ∃ x : LineCut cs, x.Holds p := by
  induction cs using lines_induction generalizing p with
  | last l hl => exact ⟨only hl, holds_of_before_nil rfl hp⟩
  | feed l r hl ih =>
    have hfeed : '\n'.utf8Size = 1 := rfl
    rw [Utf8.size_append, Utf8.size_cons, hfeed] at hp
    by_cases hpl : p ≤ Utf8.size l
    · exact ⟨first hl r, holds_of_before_nil rfl hpl⟩
    · -- the offset lies behind the first line feed
      obtain ⟨x, hx, hx'⟩ := ih (p := p - (Utf8.size l + 1)) (by omega)
      have hline : (x.behind hl).line = x.line := rfl
      refine ⟨x.behind hl, ?_⟩
      rw [Holds, start_behind, hline]
      omega

/-- **The walk finds the line behind those before it.** -/
theorem lines (x : LineCut cs) :
    linesFrom [] cs = x.before.map dropReturn ++
      match x.rest with
      | none => if x.line = [] then [] else [x.line]
      | some r => dropReturn x.line :: linesFrom [] r := by
  have hwalk := linesFrom_fed x.before_whole (x.line ++ feedThen x.rest)
  rw [x.text] at hwalk
  rw [hwalk]
  cases x.rest with
  | none => rw [feedThen, List.append_nil, linesFrom_end x.line_whole, List.reverse_nil,
      List.nil_append]
  | some r => rw [feedThen, linesFrom_feed x.line_whole, List.reverse_nil, List.nil_append]

/-- The line is left out if it is the empty one at the end of the text. -/
theorem lines_getElem? (x : LineCut cs) :
    (linesFrom [] cs)[x.before.length]? =
      if x.line = [] ∧ x.rest = none then none else some x.shown := by
  have hlen : (x.before.map dropReturn).length = x.before.length := List.length_map _
  rw [x.lines, ← hlen, List.getElem?_append_right le_rfl, Nat.sub_self, shown]
  cases x.rest with
  | none => by_cases hl : x.line = [] <;> simp [hl]
  | some r => simp

/-- That is so at the end of a text that is empty or ends in a line feed, and there only. -/
theorem left_out_iff (x : LineCut cs) {p : ℕ} (hx : x.Holds p) (hp : p ≤ Utf8.size cs) :
    x.line = [] ∧ x.rest = none ↔
      p = Utf8.size cs ∧ (cs = [] ∨ cs.getLast? = some '\n') := by
  have hsize : Utf8.size cs
      = x.start + (Utf8.size x.line + Utf8.size (feedThen x.rest)) := by
    rw [start, ← Utf8.size_append, ← Utf8.size_append, x.text]
  constructor
  · rintro ⟨hline, hrest⟩
    have htext : fed x.before = cs := by
      have h := x.text
      rwa [hline, hrest, feedThen, List.append_nil, List.append_nil] at h
    rw [hline, hrest] at hsize
    refine ⟨le_antisymm hp (by rw [hsize]; exact hx.1), ?_⟩
    rcases fed_eq_nil_or x.before with h | ⟨ds, h⟩
    · exact .inl (htext.symm.trans h)
    · refine .inr ?_
      rw [← htext, h, List.getLast?_append, List.getLast?_singleton, Option.some_or]
  · rintro ⟨hend, hlast⟩
    have hrest : x.rest = none := by
      cases hr : x.rest with
      | none => rfl
      | some r =>
        -- a line feed behind the line is one byte at least
        have hfeed : '\n'.utf8Size = 1 := rfl
        have hle := hx.2
        rw [hr, feedThen, Utf8.size_cons] at hsize
        omega
    refine ⟨?_, hrest⟩
    have htext := x.text
    rw [hrest, feedThen, List.append_nil] at htext
    rcases x.line.eq_nil_or_concat with h | ⟨ds, d, h⟩
    · exact h
    · -- the last character of the line would be the last of the text
      rw [List.concat_eq_append] at h
      rw [← htext, h, ← List.append_assoc] at hlast
      rcases hlast with hnil | hlast
      · simp at hnil
      · rw [List.getLast?_append, List.getLast?_singleton, Option.some_or, Option.some_inj] at hlast
        refine absurd ?_ x.line_whole
        rw [h, hlast]
        exact List.mem_append_right _ (List.mem_singleton.mpr rfl)

end LineCut

end ShaderConvert.Text
