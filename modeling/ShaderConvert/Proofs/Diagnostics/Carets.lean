import Mathlib.Tactic
import ShaderConvert.Proofs.Diagnostics.Quoting

/-
Where the carets stand under a quoted line.

A record about a piece of a line marks as many places as the piece has bytes, behind as many places
as there are bytes in front of it.  A line is shown by its characters, so the marks are under the
piece if and only if it and what is in front of it take one byte for each character.

* `carets_count_bytes` — where the marks stand, and when that is under the piece;
* `carets_beside_piece` — a piece of three bytes behind another character of three bytes, where they
  do not.
-/
namespace ShaderConvert

open Text

/-- A piece of a line of a text, cut between characters and not empty. -/
structure Piece (s : String) extends LineCut s.toList where
  lead : List Char
  marked : List Char
  tail : List Char
  line_eq : line = lead ++ (marked ++ tail)
  marked_ne_nil : marked ≠ []

/-- The bytes of a piece. -/
def Piece.span {s : String} (x : Piece s) : Span where
  start := x.start + Utf8.size x.lead
  stop := x.start + Utf8.size x.lead + Utf8.size x.marked

/-- A location is the place of a span, with its length. -/
structure Location.Marks (l : Location) (s : String) (span : Span) : Prop extends
    l.At s span.start where
  length : l.length.toNat = span.stop - span.start

namespace Piece

variable {s : String} (x : Piece s)

theorem size_marked_pos : 0 < Utf8.size x.marked := by
  have hlen := List.length_pos_iff.mpr x.marked_ne_nil
  have hle := Utf8.length_le_size x.marked
  omega

theorem holds_start : x.Holds x.span.start := by
  have hline : Utf8.size x.line = Utf8.size x.lead + (Utf8.size x.marked + Utf8.size x.tail) := by
    rw [x.line_eq, Utf8.size_append, Utf8.size_append]
  have hstart : x.span.start = x.start + Utf8.size x.lead := rfl
  rw [LineCut.Holds, hline, hstart]
  omega

end Piece

namespace Diagnostics

/-- What is quoted under a record is determined by the record. -/
theorem Quotes.unique {s : String} {d : Diagnostic} {below below' : String} (h : Quotes s d below)
    (h' : Quotes s d below') : below = below' := by
  have heq := (h [] []).symm.trans (h' [] [])
  rw [← String.toList_inj] at heq ⊢
  simp only [String.toList_append] at heq
  exact List.append_cancel_left (List.append_cancel_left (List.append_cancel_right heq))

/-- Below one line, marks that look the same stand at the same place. -/
theorem excerpt_inj {number : ℕ} {line : String} {lead carets lead' carets' : ℕ} :
    excerpt number line lead carets = excerpt number line lead' carets' ↔
      lead = lead' ∧ carets = carets' := by
  refine ⟨fun h => ?_, fun ⟨hl, hc⟩ => by rw [hl, hc]⟩
  rw [← String.toList_inj] at h
  simp only [excerpt, repeatChar, String.toList_append, String.toList_ofList,
    List.append_assoc, List.append_cancel_left_eq] at h
  have hblanks := congrArg (List.count ' ') h
  have hcarets := congrArg (List.count '^') h
  simp [List.count_append, List.count_replicate] at hblanks hcarets
  omega

/-- **Marks count bytes.**  A record about a piece of a line quotes the line and marks below it as
many places as the piece has bytes, behind as many as there are bytes in front of the piece.  These
are the places of its characters if and only if each character up to the end of the piece is one
byte. -/
theorem carets_count_bytes {s : String} (x : Piece s) {d : Diagnostic} {l : Location}
    (hd : d.location = some l) (hl : l.Marks s x.span) :
    Quotes s d (excerpt x.number (String.ofList x.shown) (Utf8.size x.lead)
      (Utf8.size x.marked)) ∧
    (Quotes s d (excerpt x.number (String.ofList x.shown) x.lead.length x.marked.length) ↔
      ∀ c ∈ x.lead ++ x.marked, c.utf8Size = 1) := by
  have hholds := x.holds_start
  have hlength : Nat.max l.length.toNat 1 = Utf8.size x.marked := by
    have hpos := x.size_marked_pos
    rw [hl.length, Piece.span, Nat.add_sub_cancel_left]
    exact Nat.max_eq_left hpos
  have hcolumn : columnOf s x.span.start - 1 = Utf8.size x.lead := by
    have hstart : x.span.start = x.start + Utf8.size x.lead := rfl
    rw [x.columnOf_eq hholds, hstart]
    omega
  have hinside : ¬ (x.line = [] ∧ x.rest = none) := by
    rintro ⟨hnil, -⟩
    rw [x.line_eq] at hnil
    exact x.marked_ne_nil (List.append_eq_nil_iff.mp (List.append_eq_nil_iff.mp hnil).2).1
  have hquotes := quotes_location hd s
  rw [quote_of_holds hl.toAt hholds, if_neg hinside, x.lineOf_eq hholds, hcolumn, hlength]
    at hquotes
  have hbytes : (∀ c ∈ x.lead ++ x.marked, c.utf8Size = 1) ↔
      Utf8.size x.lead = x.lead.length ∧ Utf8.size x.marked = x.marked.length := by
    rw [List.forall_mem_append, Utf8.size_eq_length_iff, Utf8.size_eq_length_iff]
  refine ⟨hquotes, ?_⟩
  rw [hbytes]
  constructor
  · exact fun h => excerpt_inj.mp (hquotes.unique h)
  · rintro ⟨hlead, hmarked⟩
    rwa [hlead, hmarked] at hquotes

/-- The unknown name in a line of ASCII characters. -/
def unknownName : Piece "let a = x;" where
  toLineCut := .only (by decide)
  lead := "let a = ".toList
  marked := "x".toList
  tail := ";".toList
  line_eq := by decide
  marked_ne_nil := by decide

/-- There the mark is under the name. -/
theorem carets_count_bytes_unknownName :
    Quotes "let a = x;" ⟨.error, "m", some ⟨1, 9, 8, 1⟩⟩
      (excerpt 1 "let a = x;" 8 1) := by
  obtain ⟨-, haligned⟩ := carets_count_bytes unknownName (d := ⟨.error, "m", some ⟨1, 9, 8, 1⟩⟩)
    rfl ⟨⟨by decide +kernel, by decide +kernel, by decide +kernel⟩, by decide +kernel⟩
  have hascii : (unknownName.lead ++ unknownName.marked).all (·.utf8Size = 1) = true := by decide
  exact haligned.mpr fun c hc => of_decide_eq_true (List.all_eq_true.mp hascii c hc)

/-- The unknown name of one character and three bytes, behind another such name. -/
def unknownWideName : Piece "fn f() \x7b let 日 = 本; \x7d" where
  toLineCut := .only (by decide)
  lead := "fn f() \x7b let 日 = ".toList
  marked := "本".toList
  tail := "; \x7d".toList
  line_eq := by decide
  marked_ne_nil := by decide

/-- **The marks are not always under the piece that they are about.** -/
theorem carets_beside_piece :
    ¬ ∀ (s : String) (x : Piece s) (d : Diagnostic) (l : Location), d.location = some l →
      l.Marks s x.span →
        Quotes s d (excerpt x.number (String.ofList x.shown) x.lead.length x.marked.length) := by
  intro h
  have hname := h _ unknownWideName ⟨.error, "m", some ⟨1, 20, 19, 3⟩⟩ _ rfl
    ⟨⟨by decide +kernel, by decide +kernel, by decide +kernel⟩, by decide +kernel⟩ [] []
  revert hname
  decide +kernel

end Diagnostics

end ShaderConvert
