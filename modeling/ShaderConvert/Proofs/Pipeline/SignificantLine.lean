import Mathlib.Tactic
import ShaderConvert.Proofs.Pipeline.Sniffing
import ShaderConvert.Proofs.Text.Lines

/-
The one line that the format of a text depends on.

A text is taken for assembly or for source by its first line that is neither blank nor a comment.
The magic number is looked for among the first four bytes, which are those of a text as well; no
line feed is among them, and neither a blank line nor a comment starts with them.

* `encode_prefix_iff` — a text begins with the bytes of another if and only if it begins with its
  characters;
* `LineCut.IsFirst.significant_eq` — the walk along the lines stops at the first significant one;
* `detect_significant_line` — lines that say nothing can be put in front, and everything behind the
  first significant line can be replaced: the format is that of this line.
-/
namespace ShaderConvert

/-! ### The magic number in front of a text -/

theorem Utf8.encode_prefix_iff (cs ds : List Char) :
    cs.flatMap String.utf8EncodeChar <+: ds.flatMap String.utf8EncodeChar ↔ cs <+: ds := by
  induction cs generalizing ds with
  | nil => exact ⟨fun _ => List.nil_prefix, fun _ => List.nil_prefix⟩
  | cons c cs ih =>
    rw [List.flatMap_cons]
    cases ds with
    | nil =>
      rw [List.flatMap_nil, List.prefix_nil, List.append_eq_nil_iff, List.prefix_nil]
      exact ⟨fun h => absurd h.1 String.utf8EncodeChar_ne_nil, nofun⟩
    | cons d ds =>
      rw [List.flatMap_cons, List.cons_prefix_cons, ← ih]
      constructor
      · intro h
        -- both texts show their first character at the front
        obtain ⟨rest, hrest⟩ := h
        have hfront := front_utf8EncodeChar d (ds.flatMap String.utf8EncodeChar)
        rw [← hrest, List.append_assoc, front_utf8EncodeChar, Front.char.injEq] at hfront
        obtain rfl := hfront.1
        rw [List.append_assoc, List.append_cancel_left_eq] at hrest
        exact ⟨rfl, rest, hrest⟩
      · rintro ⟨rfl, h⟩
        exact (List.prefix_append_right_inj _).mpr h

namespace Words

/-- The bytes of the magic number are in front, in one order or the other. -/
def BeginsWithMagic (bs : List UInt8) : Prop :=
  bytesOf magic <+: bs ∨ (bytesOf magic).reverse <+: bs

instance (bs : List UInt8) : Decidable (BeginsWithMagic bs) :=
  inferInstanceAs (Decidable (_ ∨ _))

theorem startsWithMagic_eq (bs : List UInt8) :
    Format.startsWithMagic bs = decide (BeginsWithMagic bs) := by
  rw [Bool.eq_iff_iff, decide_eq_true_eq, Format.startsWithMagic_iff, head_normalize_eq_magic_iff,
    BeginsWithMagic, ← bytesOf_swap, swap_magic, bytesOf_prefix_iff, bytesOf_prefix_iff]

/-- The magic number as text, in both orders. -/
def magicTexts : List (List Char) := ["\x03\x02#\x07".toList, "\x07#\x02\x03".toList]

theorem beginsWithMagic_encode_iff (s : String) :
    BeginsWithMagic (Utf8.encode s) ↔ ∃ m ∈ magicTexts, m <+: s.toList := by
  have hbytes : bytesOf magic = "\x03\x02#\x07".toList.flatMap String.utf8EncodeChar := by decide
  have hreverse : (bytesOf magic).reverse = "\x07#\x02\x03".toList.flatMap String.utf8EncodeChar :=
    by decide
  rw [BeginsWithMagic, hreverse, hbytes, Utf8.encode, Utf8.encode_prefix_iff,
    Utf8.encode_prefix_iff, magicTexts, List.exists_mem_cons_iff, List.exists_mem_cons_iff]
  simp

theorem feed_notMem_magic {m : List Char} (hm : m ∈ magicTexts) : '\n' ∉ m := by
  revert m
  decide

end Words

namespace Text

/-! ### Lines that say nothing -/

/-- A blank line or a comment. -/
def Skipped (line : List Char) : Prop :=
  trim line = [] ∨ ";".toList <+: trim line ∨ "//".toList <+: trim line

instance (line : List Char) : Decidable (Skipped line) := inferInstanceAs (Decidable (_ ∨ _ ∨ _))

theorem skipped_congr {l l' : List Char} (h : trim l = trim l') : Skipped l ↔ Skipped l' := by
  rw [Skipped, Skipped, h]

theorem startsWith_iff (p : String) (cs : List Char) : startsWith p cs = true ↔ p.toList <+: cs :=
  List.isPrefixOf_iff_prefix

theorem isSignificant_trim (line : List Char) :
    Format.isSignificant (trim line) = true ↔ ¬ Skipped line := by
  rw [Skipped, ← startsWith_iff, ← startsWith_iff]
  simp [Format.isSignificant, and_assoc]

theorem not_skipped_cons {c : Char} (hblank : isBlank c = false) (hsemicolon : c ≠ ';')
    (hslash : c ≠ '/') (l : List Char) : ¬ Skipped (c :: l) := by
  rw [Skipped, trim_cons hblank]
  rintro (h | h | h)
  · cases h
  · exact hsemicolon (List.cons_prefix_cons.mp h).1.symm
  · exact hslash (List.cons_prefix_cons.mp h).1.symm

/-- What begins with the magic number says something. -/
theorem not_skipped_of_magic {m l : List Char} (hm : m ∈ Words.magicTexts) (h : m <+: l) :
    ¬ Skipped l := by
  obtain ⟨r, rfl⟩ := h
  rcases List.mem_pair.mp hm with rfl | rfl
  · exact not_skipped_cons (by decide) (by decide) (by decide) _
  · exact not_skipped_cons (by decide) (by decide) (by decide) _

/-- Lines that say nothing, each with its end: a line feed, or a carriage return and a line feed. -/
inductive Preamble : List Char → Prop where
  | nil : Preamble []
  | feed {line r : List Char} :
      '\n' ∉ line → Skipped line → Preamble r → Preamble (line ++ '\n' :: r)
  | returnFeed {line r : List Char} :
      '\n' ∉ line → Skipped line → Preamble r → Preamble (line ++ '\r' :: '\n' :: r)

theorem Preamble.exists_fed {p : List Char} (h : Preamble p) :
    ∃ ls, fed ls = p ∧ (∀ l ∈ ls, '\n' ∉ l) ∧ ∀ l ∈ ls, Skipped l := by
  induction h with
  | nil => exact ⟨[], rfl, List.forall_mem_nil _, List.forall_mem_nil _⟩
  | @feed line r hline hskipped _ ih =>
    obtain ⟨ls, rfl, hwhole, hls⟩ := ih
    exact ⟨line :: ls, fed_cons line ls, List.forall_mem_cons.mpr ⟨hline, hwhole⟩,
      List.forall_mem_cons.mpr ⟨hskipped, hls⟩⟩
  | @returnFeed line r hline hskipped _ ih =>
    -- the carriage return is a blank at the end of the line
    obtain ⟨ls, rfl, hwhole, hls⟩ := ih
    have htrim := trim_append_blank line (c := '\r') (by decide)
    have hreturn : '\n' ∉ line ++ ['\r'] := by
      rw [List.mem_append, List.mem_singleton]
      exact not_or.mpr ⟨hline, by decide⟩
    refine ⟨(line ++ ['\r']) :: ls, ?_, List.forall_mem_cons.mpr ⟨hreturn, hwhole⟩,
      List.forall_mem_cons.mpr ⟨(skipped_congr htrim).mpr hskipped, hls⟩⟩
    rw [fed_cons, List.append_assoc]
    rfl

/-! ### The first significant line -/

/-- The first line that says something. -/
structure LineCut.IsFirst {cs : List Char} (x : LineCut cs) : Prop where
  before : ∀ l ∈ x.before, Skipped l
  line : ¬ Skipped x.line

/-- The line, trimmed, that decides about the format of a text. -/
def significant? (cs : List Char) : Option (List Char) :=
  ((linesFrom [] cs).map trim).find? Format.isSignificant

theorem find_significant_skipped {ls : List (List Char)} (h : ∀ l ∈ ls, Skipped l)
    (ms : List (List Char)) :
    ((ls.map dropReturn ++ ms).map trim).find? Format.isSignificant =
      (ms.map trim).find? Format.isSignificant := by
  have hnone : ((ls.map dropReturn).map trim).find? Format.isSignificant = none := by
    rw [List.find?_eq_none]
    intro line hline
    obtain ⟨l', hl', rfl⟩ := List.mem_map.mp hline
    obtain ⟨l, hl, rfl⟩ := List.mem_map.mp hl'
    rw [trim_dropReturn, isSignificant_trim, not_not]
    exact h l hl
  rw [List.map_append, List.find?_append, hnone, Option.none_or]

/-- **Lines that say nothing can be put in front.** -/
theorem significant?_fed {ls : List (List Char)} (hwhole : ∀ l ∈ ls, '\n' ∉ l)
    (h : ∀ l ∈ ls, Skipped l) (cs : List Char) : significant? (fed ls ++ cs) = significant? cs := by
  rw [significant?, linesFrom_fed hwhole, find_significant_skipped h]
  rfl

/-- **The walk stops at the first significant line.** -/
theorem LineCut.IsFirst.significant_eq {cs : List Char} {x : LineCut cs} (hx : x.IsFirst) :
    significant? cs = some (trim x.line) := by
  have hline := (isSignificant_trim x.line).mpr hx.line
  rw [significant?, x.lines, find_significant_skipped hx.before]
  cases x.rest with
  | none =>
    have hne : x.line ≠ [] := by
      intro hnil
      refine hx.line (.inl ?_)
      rw [hnil]
      rfl
    simp only [if_neg hne, List.map_cons]
    rw [List.find?_cons_of_pos hline]
  | some r =>
    simp only [List.map_cons, trim_dropReturn]
    rw [List.find?_cons_of_pos hline]

theorem LineCut.IsFirst.behind {cs l : List Char} {x : LineCut cs} (hx : x.IsFirst) (hl : '\n' ∉ l)
    (h : Skipped l) : (x.behind hl).IsFirst :=
  ⟨List.forall_mem_cons.mpr ⟨h, hx.before⟩, hx.line⟩

/-- A text has a first significant line, or none at all. -/
theorem exists_isFirst_or (cs : List Char) :
    (∃ x : LineCut cs, x.IsFirst) ∨ significant? cs = none := by
  induction cs using lines_induction with
  | last l hl =>
    by_cases h : Skipped l
    · right
      rw [significant?, linesFrom_end hl, List.reverse_nil, List.nil_append, List.find?_eq_none]
      intro line hline
      obtain ⟨l', hl', rfl⟩ := List.mem_map.mp hline
      rw [isSignificant_trim, not_not]
      split_ifs at hl'
      · cases hl'
      · rwa [List.mem_singleton.mp hl']
    · exact .inl ⟨.only hl, List.forall_mem_nil _, h⟩
  | feed l r hl ih =>
    by_cases h : Skipped l
    · rcases ih with ⟨x, hx⟩ | hnone
      · exact .inl ⟨x.behind hl, hx.behind hl h⟩
      · have hfed := significant?_fed (List.forall_mem_singleton.mpr hl)
          (List.forall_mem_singleton.mpr h) r
        rw [fed_cons, List.append_assoc, List.cons_append] at hfed
        exact .inr (hfed.trans hnone)
    · exact .inl ⟨.first hl r, List.forall_mem_nil _, h⟩

/-- If any line is significant, one is the first, and if that line has a line feed, so has this. -/
theorem LineCut.exists_isFirst {cs : List Char} (x : LineCut cs) (h : ¬ Skipped x.line) :
    ∃ y : LineCut cs, y.IsFirst ∧ (x.rest ≠ none → y.rest ≠ none) := by
  obtain ⟨before, line, rest, rfl, hwhole, hline⟩ := x
  dsimp only at h ⊢
  induction before with
  | nil => exact ⟨⟨[], line, rest, rfl, hwhole, hline⟩, ⟨List.forall_mem_nil _, h⟩, id⟩
  | cons l ls ih =>
    obtain ⟨hl, hls⟩ := List.forall_mem_cons.mp hwhole
    rw [fed_cons, List.append_assoc, List.cons_append]
    by_cases hskip : Skipped l
    · obtain ⟨y, hy, hrest⟩ := ih hls
      exact ⟨y.behind hl, hy.behind hl hskip, hrest⟩
    · exact ⟨.first hl _, ⟨List.forall_mem_nil _, hskip⟩, fun _ => Option.some_ne_none _⟩

/-- The text up to the line feed of a line, and something else behind it. -/
def LineCut.withRest {cs : List Char} (x : LineCut cs) (r : List Char) : List Char :=
  fed x.before ++ (x.line ++ '\n' :: r)

/-- The line in the text with something else behind it. -/
def LineCut.replaced {cs : List Char} (x : LineCut cs) (r : List Char) : LineCut (x.withRest r) :=
  ⟨x.before, x.line, some r, rfl, x.before_whole, x.line_whole⟩

/-! ### Texts without the magic number -/

theorem prefix_of_prefix_feed {m a r : List Char} (hm : '\n' ∉ m) (h : m <+: a ++ '\n' :: r) :
    m <+: a := by
  have hmem : ∀ {n : List Char}, a ++ ['\n'] <+: n → '\n' ∈ n := fun hn =>
    hn.subset (List.mem_append_right a List.mem_cons_self)
  have hfeed : a ++ ['\n'] <+: a ++ '\n' :: r := ⟨r, by rw [List.append_assoc]; rfl⟩
  rcases List.prefix_or_prefix_of_prefix h hfeed with h | h
  · rcases List.prefix_concat_iff.mp h with rfl | h
    · exact absurd (hmem List.prefix_rfl) hm
    · exact h
  · exact absurd (hmem h) hm

open Words (BeginsWithMagic beginsWithMagic_encode_iff feed_notMem_magic)

/-- Lines that say nothing do not make a binary of a text. -/
theorem Preamble.not_beginsWithMagic {p t : String} (hp : Preamble p.toList)
    (h : ¬ BeginsWithMagic (Utf8.encode t)) : ¬ BeginsWithMagic (Utf8.encode (p ++ t)) := by
  rw [beginsWithMagic_encode_iff, String.toList_append] at *
  rintro ⟨m, hm, hfront⟩
  obtain ⟨ls, hls, -, hskip⟩ := hp.exists_fed
  rw [← hls] at hfront
  cases ls with
  | nil => exact h ⟨m, hm, hfront⟩
  | cons l ls =>
    rw [fed_cons, List.append_assoc, List.cons_append] at hfront
    exact not_skipped_of_magic hm (prefix_of_prefix_feed (feed_notMem_magic hm) hfront)
      (hskip l List.mem_cons_self)

/-- Nor does anything behind a line feed. -/
theorem LineCut.not_beginsWithMagic {t : String} (x : LineCut t.toList)
    (h : ¬ BeginsWithMagic (Utf8.encode t)) (r : List Char) :
    ¬ BeginsWithMagic (Utf8.encode (String.ofList (x.withRest r))) := by
  rw [beginsWithMagic_encode_iff] at *
  rintro ⟨m, hm, hfront⟩
  rw [String.toList_ofList, withRest, ← List.append_assoc] at hfront
  refine h ⟨m, hm, ?_⟩
  rw [← x.text, ← List.append_assoc]
  exact (prefix_of_prefix_feed (feed_notMem_magic hm) hfront).trans (List.prefix_append _ _)

/-! ### Instructions -/

/-- An instruction, alone or with the id of its result in front of the first equals sign. -/
def IsInstruction (line : List Char) : Prop :=
  "Op".toList <+: line ∨ ∃ lhs rhs, line = lhs ++ '=' :: rhs ∧ '=' ∉ lhs ∧
    "%".toList <+: trim lhs ∧ "Op".toList <+: trim rhs

theorem isInstruction_iff (line : List Char) :
    Format.isInstruction line = true ↔ IsInstruction line := by
  -- where the line is cut at its first equals sign, both sides of it are found
  have hcut : ∀ {lhs rhs : List Char}, '=' ∉ lhs →
      (lhs ++ '=' :: rhs).takeWhile (· ≠ '=') = lhs ∧
        ((lhs ++ '=' :: rhs).dropWhile (· ≠ '=')).drop 1 = rhs := by
    intro lhs rhs hlhs
    have hpos : ∀ c ∈ lhs, decide (c ≠ '=') = true := by
      intro c hc
      rw [decide_eq_true_eq]
      rintro rfl
      exact hlhs hc
    rw [List.takeWhile_append_of_pos hpos, List.dropWhile_append_of_pos hpos]
    simp
  rw [Format.isInstruction, Bool.or_eq_true, Bool.and_eq_true, Bool.and_eq_true, startsWith_iff,
    startsWith_iff, startsWith_iff, IsInstruction, List.contains_iff_mem, and_assoc]
  refine or_congr_right ⟨?_, ?_⟩
  · rintro ⟨hmem, hid, hop⟩
    obtain ⟨lhs, rhs, rfl, hlhs⟩ := List.eq_append_cons_of_mem hmem
    rw [(hcut hlhs).1] at hid
    rw [(hcut hlhs).2] at hop
    exact ⟨lhs, rhs, rfl, hlhs, hid, hop⟩
  · rintro ⟨lhs, rhs, rfl, hlhs, hid, hop⟩
    rw [(hcut hlhs).1, (hcut hlhs).2]
    exact ⟨List.mem_append_right _ List.mem_cons_self, hid, hop⟩

end Text

namespace Format

open Text

/-! ### The format of a text -/

/-- A text is not a binary, so its first significant line is what counts. -/
theorem detect_encode {s : String} (h : ¬ Words.BeginsWithMagic (Utf8.encode s)) :
    detect (Utf8.encode s) = some (match significant? s.toList with
      | some line => if isInstruction line then assembly else source
      | none => source) := by
  rw [detect, Words.startsWithMagic_eq, decide_eq_false h, Utf8.decode_encode]
  rfl

/-- **The format of a text is that of its first significant line.**  Blank lines and comments in
front of the text do not change it, and neither does anything that is put behind the line feed of
that line instead of what stands there.  The text is assembly if the line is an instruction, and
source if it is not or if there is no such line. -/
theorem detect_significant_line {t : String} (h : ¬ Words.BeginsWithMagic (Utf8.encode t)) :
    (∀ p : String, Preamble p.toList →
      detect (Utf8.encode (p ++ t)) = detect (Utf8.encode t)) ∧
    (∀ x : LineCut t.toList, ¬ Skipped x.line →
      ∃ y : LineCut t.toList, y.IsFirst ∧ (x.rest ≠ none → y.rest ≠ none)) ∧
    (∀ x : LineCut t.toList, x.IsFirst → ∀ r : String,
      detect (Utf8.encode (String.ofList (x.withRest r.toList))) = detect (Utf8.encode t)) ∧
    (∀ x : LineCut t.toList, x.IsFirst →
      (detect (Utf8.encode t) = some assembly ↔ IsInstruction (trim x.line)) ∧
      (detect (Utf8.encode t) = some source ↔ ¬ IsInstruction (trim x.line))) ∧
    ((∀ x : LineCut t.toList, ¬ x.IsFirst) → detect (Utf8.encode t) = some source) := by
  have ht := detect_encode h
  refine ⟨?_, fun x hx => x.exists_isFirst hx, ?_, ?_, ?_⟩
  · intro p hp
    obtain ⟨ls, hls, hwhole, hskip⟩ := hp.exists_fed
    rw [detect_encode (hp.not_beginsWithMagic h), ht, String.toList_append, ← hls,
      significant?_fed hwhole hskip]
  · intro x hx r
    have hx' : (x.replaced r.toList).IsFirst := ⟨hx.before, hx.line⟩
    have hline : (x.replaced r.toList).line = x.line := rfl
    rw [detect_encode (x.not_beginsWithMagic h _), ht, hx.significant_eq, String.toList_ofList,
      hx'.significant_eq, hline]
  · intro x hx
    rw [ht, hx.significant_eq, ← isInstruction_iff]
    by_cases hi : isInstruction (trim x.line) = true <;> simp [hi]
  · intro hnone
    rcases exists_isFirst_or t.toList with ⟨x, hx⟩ | hsig
    · exact absurd hx (hnone x)
    · rw [ht, hsig]

/-- An instruction with a result, behind a comment and in front of something else. -/
theorem detect_significant_line_standard :
    detect (Utf8.encode ("; a\r\n" ++ "%1 = OpTypeVoid\nx")) = some assembly ∧
    detect (Utf8.encode "%1 = OpTypeVoid\nfn") = some assembly := by
  obtain ⟨hfront, -, hrest, hformat, -⟩ :=
    detect_significant_line (t := "%1 = OpTypeVoid\nx") (by decide)
  have hline : '\n' ∉ "%1 = OpTypeVoid".toList := by decide
  let x : LineCut "%1 = OpTypeVoid\nx".toList := .first hline "x".toList
  have hsignificant : ¬ Skipped "%1 = OpTypeVoid".toList := by decide
  have hinstruction : isInstruction (trim "%1 = OpTypeVoid".toList) = true := by decide
  have hx : x.IsFirst := ⟨List.forall_mem_nil _, hsignificant⟩
  have hassembly := (hformat x hx).1.mpr ((isInstruction_iff _).mp hinstruction)
  have hskipped : Skipped "; a".toList := by decide
  have hcomment : Preamble "; a\r\n".toList := .returnFeed (by decide) hskipped .nil
  exact ⟨(hfront _ hcomment).trans hassembly,
    (hrest x hx "fn").trans hassembly⟩

end Format

end ShaderConvert
