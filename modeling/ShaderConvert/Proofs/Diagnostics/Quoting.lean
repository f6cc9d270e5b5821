import Mathlib.Tactic
import ShaderConvert.Proofs.Pipeline.Presentation
import ShaderConvert.Proofs.Text.Lines
import ShaderConvert.Tools

/-
A located record quotes the line of its place.

The place of a record comes from counting line feeds among the bytes in front of an offset, the line
that is quoted from cutting the text into lines.  The two agree at every offset of every text.

* `lineOf_eq`, `columnOf_eq` — the number and the column of an offset, by the line that holds it;
* `Diagnostics.located` — the record quotes this line with its number, and its first caret is as many
  places behind the gutter as the offset is bytes behind the start of the line; behind the last line
  feed of a text nothing is quoted;
* `Pipeline.failed_reading_text` — a stage that reads text and fails had the caller's own text;
* `Pipeline.excerpts_quote_input` — so whatever a failed run quotes is a line of its input.
-/
namespace ShaderConvert

/-! ### Offsets and places -/

/-- The line of a byte offset: one more than the line feeds in front of it. -/
def lineOf (s : String) (p : ℕ) : ℕ := 1 + ((Utf8.encode s).take p).count 10

/-- The column of a byte offset: one more than the bytes since the last line feed in front of it. -/
def columnOf (s : String) (p : ℕ) : ℕ :=
  1 + (((Utf8.encode s).take p).reverse.takeWhile (· ≠ 10)).length

/-- A location is the place of offset `p`. -/
structure Location.At (l : Location) (s : String) (p : ℕ) : Prop where
  line : l.line.toNat = lineOf s p
  column : l.column.toNat = columnOf s p
  offset : l.offset.toNat = p

theorem Span.lineAndColumn_eq (bytes : List UInt8) :
    lineAndColumn bytes = (1 + bytes.count 10, 1 + (bytes.reverse.takeWhile (· ≠ 10)).length) := by
  induction bytes using List.reverseRecOn with
  | nil => rfl
  | append_singleton bytes b ih =>
    rw [lineAndColumn] at ih ⊢
    rw [List.foldl_append, ih, List.foldl_cons, List.foldl_nil, List.count_append,
      List.reverse_append, List.reverse_singleton, List.singleton_append]
    by_cases hb : b = 10
    · simp [hb, Nat.add_assoc]
    · simp [hb, Nat.add_comm]

/-- **A span is located at its first byte**, as long as the numbers of the place fit. -/
theorem Span.at_locate_iff (span : Span) (s : String) :
    (span.locate s).At s span.start ↔
      span.start < 2 ^ 32 ∧ lineOf s span.start < 2 ^ 32 ∧ columnOf s span.start < 2 ^ 32 := by
  have hlocate : span.locate s = ⟨(lineOf s span.start).toUInt32, (columnOf s span.start).toUInt32,
      span.start.toUInt32, (span.stop - span.start).toUInt32⟩ := by
    rw [locate, lineAndColumn_eq]
    rfl
  have hfits : ∀ n : ℕ, n.toUInt32.toNat = n ↔ n < 2 ^ 32 := by
    intro n
    rw [UInt32.toNat_ofNat', Nat.mod_eq_iff_lt (by norm_num)]
  rw [hlocate]
  constructor
  · rintro ⟨hline, hcolumn, hoffset⟩
    exact ⟨(hfits _).mp hoffset, (hfits _).mp hline, (hfits _).mp hcolumn⟩
  · rintro ⟨hoffset, hline, hcolumn⟩
    exact ⟨(hfits _).mpr hline, (hfits _).mpr hcolumn, (hfits _).mpr hoffset⟩

namespace Text

/-- A line without a line feed has no byte of that value. -/
theorem feed_notMem_bytes {l : List Char} (h : '\n' ∉ l) :
    (10 : UInt8) ∉ l.flatMap String.utf8EncodeChar :=
  Utf8.notMem_flatMap_utf8EncodeChar (by decide) rfl h

theorem count_feed_fed {ls : List (List Char)} (h : ∀ l ∈ ls, '\n' ∉ l) :
    ((fed ls).flatMap String.utf8EncodeChar).count 10 = ls.length := by
  induction ls with
  | nil => rfl
  | cons l ls ih =>
    obtain ⟨hl, hls⟩ := List.forall_mem_cons.mp h
    have hfeed : String.utf8EncodeChar '\n' = [10] := by decide
    rw [fed_cons, List.flatMap_append, List.flatMap_cons, List.count_append, List.count_append,
      ih hls, List.count_eq_zero_of_not_mem (feed_notMem_bytes hl), hfeed, List.length_cons]
    show 0 + (1 + ls.length) = ls.length + 1
    omega

namespace LineCut

variable {s : String} (x : LineCut s.toList) {p : ℕ}

/-- The bytes in front of an offset are those of the lines before and some of its own line. -/
theorem take_encode (hx : x.Holds p) :
    (Utf8.encode s).take p = (fed x.before).flatMap String.utf8EncodeChar ++
      (x.line.flatMap String.utf8EncodeChar).take (p - x.start) := by
  obtain ⟨hstart, hstop⟩ := hx
  have hbefore := Utf8.length_flatMap_utf8EncodeChar (fed x.before)
  have hline := Utf8.length_flatMap_utf8EncodeChar x.line
  have htext : _ = Utf8.encode s := congrArg (List.flatMap String.utf8EncodeChar) x.text
  rw [start] at hstart hstop ⊢
  rw [← htext, List.flatMap_append, List.flatMap_append, List.take_append,
    List.take_of_length_le (hbefore.trans_le hstart), hbefore,
    List.take_append_of_le_length (by omega)]

theorem lineOf_eq (hx : x.Holds p) : lineOf s p = x.number := by
  have hline : (10 : UInt8) ∉ (x.line.flatMap String.utf8EncodeChar).take (p - x.start) :=
    fun h => feed_notMem_bytes x.line_whole (List.mem_of_mem_take h)
  rw [lineOf, x.take_encode hx, List.count_append, count_feed_fed x.before_whole,
    List.count_eq_zero_of_not_mem hline, number]
  omega

theorem columnOf_eq (hx : x.Holds p) : columnOf s p = 1 + (p - x.start) := by
  have hline : ∀ b ∈ ((x.line.flatMap String.utf8EncodeChar).take (p - x.start)).reverse,
      decide (b ≠ 10) = true := by
    intro b hb
    rw [decide_eq_true_eq]
    rintro rfl
    exact feed_notMem_bytes x.line_whole (List.mem_of_mem_take (List.mem_reverse.mp hb))
  -- the last byte in front of the line is a line feed
  have hstop : ((fed x.before).flatMap String.utf8EncodeChar).reverse.takeWhile
      (fun b => decide (b ≠ 10)) = [] := by
    rcases fed_eq_nil_or x.before with h | ⟨cs, h⟩
    · rw [h]
      rfl
    · have hfeed : ['\n'].flatMap String.utf8EncodeChar = [10] := by decide
      rw [h, List.flatMap_append, hfeed, List.reverse_append]
      rfl
  have hlen : ((x.line.flatMap String.utf8EncodeChar).take (p - x.start)).length
      = p - x.start := by
    have hle := hx.2
    rw [List.length_take, Utf8.length_flatMap_utf8EncodeChar]
    omega
  rw [columnOf, x.take_encode hx, List.reverse_append, List.takeWhile_append_of_pos hline, hstop,
    List.append_nil, List.length_reverse, hlen]

end LineCut

end Text

/-! ### What a record quotes -/

/-- A line with its number in a gutter, and below it `carets` marks that begin `lead` places behind
the gutter. -/
def excerpt (number : ℕ) (line : String) (lead carets : ℕ) : String :=
  let gutter := Text.padLeft 4 (toString number) ++ " | "
  gutter ++ line ++ "\n" ++ Text.repeatChar ' ' (gutter.length + lead)
    ++ Text.repeatChar '^' carets ++ "\n"

namespace Diagnostics

/-- Wherever it stands among others, the record prints its own line and `below` under it. -/
def Quotes (s : String) (d : Diagnostic) (below : String) : Prop :=
  ∀ front rest, renderWithSource ⟨front ++ d :: rest⟩ s
    = renderWithSource ⟨front⟩ s ++ (d.display ++ "\n" ++ below) ++ renderWithSource ⟨rest⟩ s

theorem quotes_nothing {d : Diagnostic} (h : d.location = none) (s : String) : Quotes s d "" := by
  intro front rest
  simp only [renderWithSource, List.map_append, List.map_cons, String.join_append,
    String.join_cons, h, String.append_assoc]

theorem quotes_location {d : Diagnostic} {l : Location} (h : d.location = some l) (s : String) :
    Quotes s d (quote (Text.lines s) l) := by
  intro front rest
  simp only [renderWithSource, List.map_append, List.map_cons, String.join_append,
    String.join_cons, h, String.append_assoc]

theorem quote_eq (lines : List String) (l : Location) :
    quote lines l =
      match lines[l.line.toNat - 1]? with
      | none => ""
      | some line =>
        excerpt l.line.toNat line (l.column.toNat - 1) (Nat.max l.length.toNat 1) := rfl

/-- **Every quoted line is a line of the text.** -/
theorem quotes_mem_lines (s : String) (d : Diagnostic) :
    ∃ below, Quotes s d below ∧ (below = "" ∨ ∃ number line lead carets,
      line ∈ Text.lines s ∧ below = excerpt number line lead carets) := by
  cases hd : d.location with
  | none => exact ⟨_, quotes_nothing hd s, .inl rfl⟩
  | some l =>
    refine ⟨_, quotes_location hd s, ?_⟩
    rw [quote_eq]
    cases hl : (Text.lines s)[l.line.toNat - 1]? with
    | none => exact .inl rfl
    | some line => exact .inr ⟨_, line, _, _, List.mem_of_getElem? hl, rfl⟩

/-- The offset lies behind the last line feed of the text, or the text is empty. -/
def BehindLines (s : String) (p : ℕ) : Prop :=
  p = (Utf8.encode s).length ∧ (s.toList = [] ∨ s.toList.getLast? = some '\n')

/-- A record at the place of an offset quotes the line that holds the offset, if there is one. -/
structure Located (s : String) (d : Diagnostic) (l : Location) (p : ℕ) : Prop where
  behind : BehindLines s p → Quotes s d ""
  holding : ¬ BehindLines s p → ∃ x : Text.LineCut s.toList, x.Holds p ∧ x.number = lineOf s p ∧
    Quotes s d (excerpt (lineOf s p) (String.ofList x.shown) (columnOf s p - 1)
      (Nat.max l.length.toNat 1))

theorem quote_of_holds {s : String} {p : ℕ} {l : Location} (h : l.At s p)
    {x : Text.LineCut s.toList} (hx : x.Holds p) :
    quote (Text.lines s) l =
      if x.line = [] ∧ x.rest = none then "" else
        excerpt (lineOf s p) (String.ofList x.shown) (columnOf s p - 1) (Nat.max l.length.toNat 1) := by
  have hindex : l.line.toNat - 1 = x.before.length := by
    rw [h.line, x.lineOf_eq hx, Text.LineCut.number, Nat.add_sub_cancel]
  rw [quote_eq, hindex, Text.lines, List.getElem?_map, x.lines_getElem?, h.line, h.column]
  by_cases hout : x.line = [] ∧ x.rest = none
  · rw [if_pos hout, if_pos hout]
    rfl
  · rw [if_neg hout, if_neg hout]
    rfl

/-- **A record quotes the line of its place**, at every offset of every text. -/
theorem located {s : String} {d : Diagnostic} {l : Location} {p : ℕ} (hd : d.location = some l)
    (h : l.At s p) (hp : p ≤ (Utf8.encode s).length) : Located s d l p := by
  have hsize : (Utf8.encode s).length = Utf8.size s.toList := Utf8.length_flatMap_utf8EncodeChar _
  obtain ⟨x, hx⟩ := Text.LineCut.exists_holding s.toList (hp.trans_eq hsize)
  have hquotes := quotes_location hd s
  have hout := x.left_out_iff hx (hp.trans_eq hsize)
  rw [← hsize] at hout
  rw [quote_of_holds h hx] at hquotes
  constructor
  · intro hbehind
    rwa [if_pos (hout.mpr hbehind)] at hquotes
  · intro hbehind
    rw [if_neg (mt hout.mp hbehind)] at hquotes
    exact ⟨x, hx, (x.lineOf_eq hx).symm, hquotes⟩

/-! ### The records of tools -/

/-- A place that is unknown, or that of a span. -/
def IsSpanPlace (s : String) (place : Option Location) : Prop :=
  place = none ∨ ∃ span : Span, place = some (span.locate s)

theorem isSpanPlace_head (labels : List (Span × String)) (s : String) :
    IsSpanPlace s (labels.head?.map (·.1.locate s)) := by
  cases labels with
  | nil => exact .inl rfl
  | cons label labels => exact .inr ⟨label.1, rfl⟩

theorem isSpanPlace_label (span : Span) (s : String) :
    IsSpanPlace s (if span.isDefined then some (span.locate s) else none) := by
  by_cases h : span.isDefined = true
  · exact .inr ⟨span, if_pos h⟩
  · exact .inl (if_neg h)

/-- Records about a source that cannot be read are located at spans of it, or nowhere. -/
theorem isSpanPlace_ofSourceError (e : SourceError) (s : String) :
    ∀ d ∈ (ofSourceError e s).records, IsSpanPlace s d.location := by
  intro d hd
  rcases List.mem_cons.mp hd with rfl | hd
  · exact isSpanPlace_head e.labels s
  · obtain ⟨label, -, rfl⟩ := List.mem_map.mp hd
    exact isSpanPlace_label label.1 s

/-- So are the records about an invalid module that was read from a source. -/
theorem isSpanPlace_ofInvalidity (e : Invalidity) (s : String) :
    ∀ d ∈ (ofInvalidity e (some s)).records, IsSpanPlace s d.location := by
  intro d hd
  rcases List.mem_cons.mp hd with rfl | hd
  · have hhead := isSpanPlace_head e.spans s
    rwa [Option.map_eq_bind] at hhead
  · obtain ⟨label, -, rfl⟩ := List.mem_map.mp hd
    exact isSpanPlace_label label.1 s

end Diagnostics

/-! ### Failed runs -/

theorem Conversion.readsInputText_of_mem_tail (c : Conversion) (validate : Bool) :
    ∀ s ∈ (c.chain validate).tail, s.readsInputText = false := by
  cases c <;> cases validate <;> decide

/-- A stage that reads the caller's text is the first of its chain. -/
theorem Conversion.front_of_readsInputText {c : Conversion} {validate : Bool}
    {done rest : List Stage} {s : Stage} (hl : .input :: c.chain validate = done ++ s :: rest)
    (hs : s.readsInputText = true) : done = [.input] ∧ c.chain validate = s :: rest := by
  rcases done with _ | ⟨d, _ | ⟨e, done⟩⟩
  · cases hl
    cases hs
  · rw [List.singleton_append, List.cons.injEq] at hl
    rw [← hl.1]
    exact ⟨rfl, hl.2⟩
  · have htail : s ∈ (c.chain validate).tail := by
      rw [List.cons_append, List.cons_append, List.cons.injEq] at hl
      rw [hl.2, List.tail_cons]
      exact List.mem_append_right _ List.mem_cons_self
    rw [c.readsInputText_of_mem_tail validate s htail] at hs
    cases hs

theorem Stage.takes_of_readsInputText {s : Stage} (h : s.readsInputText = true) :
    s.takes = some .text := by
  cases s <;> first | rfl | cases h

theorem Stage.readsInputText_iff (s : Stage) :
    s.readsInputText = true ↔ s = .assemble ∨ s = .parseSource := by
  cases s <;> decide

namespace Pipeline

variable {M : Type} {tools : Toolchain M} {o : PipelineOptions}

theorem handed_ne_nil {c : Conversion} {p : Payload} {done : List Stage} {v : StageValue M}
    (h : Handed tools o c p done v) : done ≠ [] := by
  cases h with
  | input h => exact List.cons_ne_nil _ _
  | step hd h => exact List.append_ne_nil_of_right_ne_nil _ (List.cons_ne_nil _ _)

theorem decodeInput_of_handed {c : Conversion} {p : Payload} {done : List Stage} {v : StageValue M}
    (h : Handed tools o c p done v) (hdone : done = [.input]) :
    Stages.decodeInput c p = .ok v := by
  cases h with
  | input h => exact h
  | step hd h =>
    obtain ⟨hnil, -⟩ := List.append_eq_singleton_iff.mp hdone |>.resolve_right fun ⟨_, h⟩ => nomatch h
    exact absurd hnil (handed_ne_nil hd)

/-- What is decoded to a text is this text. -/
theorem text?_of_decodeInput {c : Conversion} {p : Payload} {t : String}
    (h : (Stages.decodeInput c p : Except Error (StageValue M)) = .ok (.text t)) :
    p.text? = some t := by
  unfold Stages.decodeInput at h
  split at h
  · cases h
  · next bs _ =>
    cases hb : Words.readBytes bs <;> rw [hb] at h <;> cases h
  · cases h
  · cases h
    rfl
  · next bs _ _ =>
    unfold Payload.text?
    split at h <;> cases h
    next hs => simp only [hs]
  · cases h

/-- **A stage that reads text and fails had the caller's own text**, unchanged. -/
theorem failed_reading_text {c : Conversion} {p : Payload} {f : Failure}
    (h : run tools o c p = .error f) (hs : f.stage.readsInputText = true) :
    ∃ text rest, p.text? = some text ∧ c.chain o.validateBinary = f.stage :: rest ∧
      guarded f.stage (Stages.run tools o f.stage (.text text))
        = .error ⟨f.error, f.diagnostics⟩ := by
  have hrun := run_runsTo tools o c p
  rw [h] at hrun
  cases hrun with
  | refused _ => cases hs
  | @failed done rest v s g hl hd ht hf =>
    obtain ⟨hdone, hchain⟩ := Conversion.front_of_readsInputText hl hs
    have htakes : s.takes = some .text := Stage.takes_of_readsInputText hs
    rw [htakes] at ht
    cases v with
    | text t =>
      exact ⟨t, rest, text?_of_decodeInput (decodeInput_of_handed hd hdone), hchain, hf⟩
    | words ws => cases ht
    | module m => cases ht

/-- **A record quotes the line of its place, and a failed run quotes its input only.**  Records are
printed in their order.  One without a place has its own line only; one at the place of an offset
has below it the line that holds the offset, with its number and with the first caret at its column,
unless the offset lies behind all lines.  The records of a reader of source are located so.  A failed
run quotes nothing, unless the stage that failed was handed the caller's own text; then it quotes
lines of that text. -/
theorem excerpts_quote_input (tools : Toolchain M) (o : PipelineOptions) :
    (∀ s, Diagnostics.renderWithSource {} s = "") ∧
    (∀ s d, d.location = none → Diagnostics.Quotes s d "") ∧
    (∀ s d l p, d.location = some l → l.At s p → p ≤ (Utf8.encode s).length →
      Diagnostics.Located s d l p) ∧
    (∀ s d, ∃ below, Diagnostics.Quotes s d below ∧ (below = "" ∨ ∃ number line lead carets,
      line ∈ Text.lines s ∧ below = excerpt number line lead carets)) ∧
    (∀ s e e', ∀ d ∈ (Diagnostics.ofSourceError e s).records
        ++ (Diagnostics.ofInvalidity e' (some s)).records,
      Diagnostics.IsSpanPlace s d.location) ∧
    (∀ s (span : Span), (span.locate s).At s span.start ↔
      span.start < 2 ^ 32 ∧ lineOf s span.start < 2 ^ 32 ∧ columnOf s span.start < 2 ^ 32) ∧
    (∀ c p f, run tools o c p = .error f →
      (f.stage ≠ .assemble → f.stage ≠ .parseSource → f.renderWithInput p = f.render) ∧
      (f.stage = .assemble ∨ f.stage = .parseSource → ∃ text rest, p.text? = some text ∧
        c.chain o.validateBinary = f.stage :: rest ∧
        guarded f.stage (Stages.run tools o f.stage (.text text))
          = .error ⟨f.error, f.diagnostics⟩ ∧
        f.renderWithInput p
          = f.display ++ "\n" ++ f.diagnostics.renderWithSource text)) := by
  refine ⟨fun s => rfl, fun s d hd => Diagnostics.quotes_nothing hd s,
    fun s d l p hd hl hp => Diagnostics.located hd hl hp, Diagnostics.quotes_mem_lines, ?_,
    fun s span => span.at_locate_iff s, fun c p f hf => ⟨?_, ?_⟩⟩
  · intro s e e' d hd
    rcases List.mem_append.mp hd with hd | hd
    · exact Diagnostics.isSpanPlace_ofSourceError e s d hd
    · exact Diagnostics.isSpanPlace_ofInvalidity e' s d hd
  · intro hassemble hparse
    apply Failure.renderWithInput_of_not_reads
    rw [Bool.eq_false_iff, ne_eq, Stage.readsInputText_iff]
    exact not_or.mpr ⟨hassemble, hparse⟩
  · intro hs
    have hreads := f.stage.readsInputText_iff.mpr hs
    obtain ⟨text, rest, htext, hchain, hguarded⟩ := failed_reading_text hf hreads
    refine ⟨text, rest, htext, hchain, hguarded, ?_⟩
    simp only [Failure.renderWithInput, htext, hreads, if_true]

/-- The `c` of a text whose first line ends in a carriage return and a line feed, assembly with a
word that is no instruction, and a binary without words. -/
theorem excerpts_quote_input_standard :
    Diagnostics.Located "é\r\nbc\n" ⟨.error, "m", some ⟨2, 2, 5, 1⟩⟩ ⟨2, 2, 5, 1⟩ 5 ∧
    (∃ f, run Toolchain.standard {} .assemblyToBinary (.text "OpNop\nx") = .error f ∧
      f.renderWithInput (.text "OpNop\nx")
        = f.display ++ "\n" ++ f.diagnostics.renderWithSource "OpNop\nx") ∧
    ∃ f, run Toolchain.standard {} .binaryToAssembly (.words []) = .error f ∧
      f.renderWithInput (.words []) = f.render := by
  obtain ⟨-, -, hlocated, -, -, -, hrun⟩ := excerpts_quote_input Toolchain.standard {}
  have hassemble : run Toolchain.standard {} .assemblyToBinary (.text "OpNop\nx") =
      .error (.ofStage .assemblyToBinary .assemble (Stages.toolFailure "failed to assemble SPIR-V"
        (some ⟨1, 0, 6, "Expected <opcode> or <result-id> at the beginning of an instruction, "
          ++ "found 'x'.", true⟩))) := by decide +kernel
  have hempty : run Toolchain.standard {} .binaryToAssembly (.words []) =
      .error (.ofStage .binaryToAssembly .disassemble (.ofError (.codec "empty binary"))) := by
    decide +kernel
  refine ⟨hlocated _ _ _ 5 rfl ⟨by decide +kernel, by decide +kernel, rfl⟩ (by decide),
    ⟨_, hassemble, ?_⟩, _, hempty, ?_⟩
  · obtain ⟨-, hreads⟩ := hrun _ _ _ hassemble
    obtain ⟨text, -, htext, -, -, hrender⟩ := hreads (.inl rfl)
    cases htext
    exact hrender
  · obtain ⟨hother, -⟩ := hrun _ _ _ hempty
    exact hother (by decide) (by decide)

end Pipeline

end ShaderConvert
