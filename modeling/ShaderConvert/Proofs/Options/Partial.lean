import Mathlib.Tactic
import ShaderConvert.Proofs.Options.Fields

/-
Options from the fields that are given.

A text gives fields (`Gives`) if it is an object whose members give them, with any blanks between its
signs, any spelling of its strings, the names of a set in any order, and any values in members of other
names, at each level.  What is read from it is a matter of the fields alone:

* `decode_of_gives` — the defaults with the given fields replaced (`override`);
* `decode_of_not_distinct` — a failure, if a field is given twice.

The order of the fields does not matter either, since they replace different things.  The main
statement is `decode_override`.
-/
namespace ShaderConvert.PipelineOptions

open Json Json.Reader

/-- The defaults with the given fields replaced. -/
def override (fields : List OptionField) : PipelineOptions := fields.foldl schema.set {}

/-- The text is an object whose members give the fields, and blanks around it. -/
def Gives (fields : List OptionField) (text : String) : Prop :=
  ∃ v a b, schema.GivesAll fields v ∧ Blanks text.toList a ∧ Spells (.value v) a b ∧ Blanks b []

variable {fields : List OptionField} {text : String}

theorem decode_of_gives (h : Gives fields text) (hd : schema.Distinct fields) :
    decode text = .ok (override fields) := by
  obtain ⟨v, a, b, hv, htext, hspells, hb⟩ := h
  have hrun : run jsonReader text = .ok (override fields) :=
    (takes_record fits hv hd _ _ _).run_eq htext hspells hb
  rw [decode, hrun]
  rfl

theorem decode_of_not_distinct (h : Gives fields text) (hd : ¬ schema.Distinct fields) :
    ∃ m, decode text = .error (.config m) := by
  obtain ⟨v, a, b, hv, htext, hspells, hb⟩ := h
  obtain ⟨m, hrun⟩ : ∃ m, run jsonReader text = .error m :=
    (refuses_record fits hv hd _ _ _).run_eq htext hspells hb
  refine ⟨m, ?_⟩
  rw [decode, hrun]
  rfl

/-- **Options are the defaults with the given fields replaced.**  A text that gives fields is read so
in whatever order the fields come, and whatever other members there are, and it is accepted if the
check accepts the options.  A text that gives a field twice is refused. -/
theorem decode_override (h : Gives fields text) :
    (schema.Distinct fields →
      decode text = .ok (override fields) ∧
      (∀ o, ofJson text = .ok o ↔ (override fields).check = .ok () ∧ o = override fields) ∧
      ∀ fields' text', schema.Rearranged fields fields' → Gives fields' text' →
        decode text' = .ok (override fields)) ∧
    (¬ schema.Distinct fields → ∃ m, ofJson text = .error (.config m)) := by
  refine ⟨fun hd => ⟨decode_of_gives h hd, fun o => ?_, fun fields' text' hr h' => ?_⟩, fun hd => ?_⟩
  · rw [ofJson_of_decode (decode_of_gives h hd)]
    cases hcheck : (override fields).check with
    | error e => simp [Except.map]
    | ok u => simp [Except.map, eq_comm]
  · obtain ⟨hd', hsets⟩ := commutes.of_rearranged hr hd
    rw [decode_of_gives h' hd', override, hsets, override]
  · obtain ⟨m, hm⟩ := decode_of_not_distinct h hd
    refine ⟨m, ?_⟩
    rw [ofJson, hm]
    rfl

/-! ### A text with everything that does not matter -/

/-- Blanks, an escaped key, and a member of another name that holds a list. -/
def oddText : String :=
  "\x7b\"x\":[\"\\uD800\",-1.5e+3],\"\\u0063odec\": \x7b\"indent\":true\x7d,"

/-- Names in any order, one of them twice. -/
def namesText : String :=
  "\"reader\":\x7b\"allowed_features\":\x7b\"only\":\x7b\"capabilities\":[\"b\",\"a\",\"b\"]\x7d\x7d\x7d\x7d\n"

def scatteredText : String := oddText ++ namesText

/-- The same fields in another order, and the names without their key. -/
def orderlyText : String :=
  "\x7b\"reader\":\x7b\"allowed_features\":\x7b\"only\":[[\"a\",\"b\"]]\x7d\x7d,\"codec\":\x7b\"indent\":true\x7d\x7d"

/-- A field twice inside its section. -/
def repeatedText : String := "\x7b\"codec\":\x7b\"indent\":true,\"indent\":true\x7d\x7d"

/-- A list with half a pair of code units and a number with all its parts. -/
def otherValue : Value := .list [.string none, .number none]

/-- Two names are allowed. -/
def twoNames : List ReaderField := [.allowedFeatures (.only [.capabilities ["a", "b"]])]

theorem isSetOf_repeated : IsSetOf ["a", "b"] ["b", "a", "b"] where
  ascending := by decide
  mem_iff n := by
    simp only [List.mem_cons, List.not_mem_nil, or_false]
    tauto

theorem gives_scatteredText : Gives [.codec [.indent true], .reader twoNames] scatteredText := by
  have htext : scatteredText.toList = oddText.toList ++ namesText.toList := String.toList_append
  have hnames : FeatureSet.schema.GivesAll [.capabilities ["a", "b"]]
      (.object [(some "capabilities", .ofNames ["b", "a", "b"])]) :=
    ⟨_, rfl, .field ⟨_, rfl, isSetOf_repeated⟩ .nil⟩
  have hunit (l : List Char) : CodeUnit 0xD800 ('D' :: '8' :: '0' :: '0' :: l) l :=
    .mk (k := 13) (l := 8) (m := 0) (n := 0) ⟨by decide, .inr rfl⟩ ⟨by decide, .inl rfl⟩
      ⟨by decide, .inl rfl⟩ ⟨by decide, .inl rfl⟩ _
  have hc (l : List Char) : Spelled 'c' ('\\' :: 'u' :: '0' :: '0' :: '6' :: '3' :: l) l :=
    .unit (.mk (k := 0) (l := 0) (m := 6) (n := 3) ⟨by decide, .inl rfl⟩ ⟨by decide, .inl rfl⟩
      ⟨by decide, .inl rfl⟩ ⟨by decide, .inl rfl⟩ _)
  have hdigit {d : Char} (hd : isDigit d = true) (l : List Char) : Digits (d :: l) l :=
    .mk hd (.none _)
  have hother : ∀ f : OptionField, f.name ≠ "x" := by
    rintro (_ | _ | _ | _ | _ | _) <;> simp [OptionField.name]
  rw [Gives, htext]
  simp only [oddText, namesText, String.reduceToList, List.cons_append, List.nil_append]
  refine ⟨_, _, ['\n'], ⟨_, rfl, .other hother otherValue <| .field ⟨_, rfl, .field rfl .nil⟩ <|
    .field ⟨_, rfl, .field (.only hnames) .nil⟩ .nil⟩, .none _, ?_, .more rfl (.none _)⟩
  exact .object <|
    .member (.first _) (key_plain rfl _) (.none _)
      (.list <|
        .element (.first _) (.none _)
          (.string (s := none) (.more (.unit (hunit _)) (.close _))) <|
        .element (.comma (.none _)) (.none _)
          (.number <| .negative <| .mk (.digits rfl (by decide) (.none _)) (.present (hdigit rfl _))
            (.signed (.inl rfl) (.inl rfl) (hdigit rfl _))) <|
        .endList (.none _)) <|
    .member (.comma (.none _)) (.mk (.none _)
      (.more (hc _) (characters_plain (s := "odec".toList) rfl _)) (.none _))
      (.more rfl (.none _))
      (.object <| .member (.first _) (key_plain rfl _) (.none _) (.bool true _) <|
        .endObject (.none _)) <|
    .member (.comma (.none _)) (key_plain rfl _) (.none _)
      (.object <| .member (.first _) (key_plain rfl _) (.none _)
        (.object <| .member (.first _) (key_plain rfl _) (.none _)
          (.object <| .member (.first _) (key_plain rfl _) (.none _)
            (.list <| .element (.first _) (.none _) (.string (characters_plain rfl _)) <|
              .element (.comma (.none _)) (.none _) (.string (characters_plain rfl _)) <|
              .element (.comma (.none _)) (.none _) (.string (characters_plain rfl _)) <|
              .endList (.none _)) <|
            .endObject (.none _)) <|
          .endObject (.none _)) <|
        .endObject (.none _)) <|
    .endObject (.none _)

theorem gives_orderlyText : Gives [.reader twoNames, .codec [.indent true]] orderlyText := by
  have hset : IsSetOf ["a", "b"] ["a", "b"] := isSetOf_self (by decide)
  rw [Gives]
  simp only [orderlyText, String.reduceToList]
  refine ⟨_, _, _, ⟨_, rfl, .field ⟨_, rfl, .field (.capabilities ⟨_, rfl, hset⟩) .nil⟩ <|
    .field ⟨_, rfl, .field rfl .nil⟩ .nil⟩, .none _, ?_, .none _⟩
  exact .object <|
    .member (.first _) (key_plain rfl _) (.none _)
      (.object <| .member (.first _) (key_plain rfl _) (.none _)
        (.object <| .member (.first _) (key_plain rfl _) (.none _)
          (.list <| .element (.first _) (.none _)
            (.list <| .element (.first _) (.none _) (.string (characters_plain rfl _)) <|
              .element (.comma (.none _)) (.none _) (.string (characters_plain rfl _)) <|
              .endList (.none _)) <|
            .endList (.none _)) <|
          .endObject (.none _)) <|
        .endObject (.none _)) <|
    .member (.comma (.none _)) (key_plain rfl _) (.none _)
      (.object <| .member (.first _) (key_plain rfl _) (.none _) (.bool true _) <|
        .endObject (.none _)) <|
    .endObject (.none _)

theorem gives_repeatedText : Gives [.codec [.indent true, .indent true]] repeatedText := by
  rw [Gives]
  simp only [repeatedText, String.reduceToList]
  refine ⟨_, _, _, ⟨_, rfl, .field ⟨_, rfl, .field rfl (.field rfl .nil)⟩ .nil⟩, .none _, ?_, .none _⟩
  exact .object <|
    .member (.first _) (key_plain rfl _) (.none _)
      (.object <| .member (.first _) (key_plain rfl _) (.none _) (.bool true _) <|
        .member (.comma (.none _)) (key_plain rfl _) (.none _) (.bool true _) <|
        .endObject (.none _)) <|
    .endObject (.none _)

/-- What both texts give. -/
def indentingTwo : PipelineOptions where
  codec := { indent := true }
  reader := { allowedFeatures := .only ["a", "b"] [] }

theorem decode_override_scattered :
    decode scatteredText = .ok indentingTwo ∧ ofJson scatteredText = .ok indentingTwo ∧
    decode orderlyText = .ok indentingTwo ∧ ∃ m, ofJson repeatedText = .error (.config m) := by
  have hcodec : CodecOptions.schema.Distinct [.indent true] :=
    ⟨List.nodup_singleton _, fun _ _ => trivial⟩
  have htwo : ReaderOptions.schema.Distinct twoNames := by
    refine ⟨List.nodup_singleton _, ?_⟩
    rintro f (_ | ⟨_, ⟨⟩⟩)
    exact ⟨List.nodup_singleton _, fun _ _ => trivial⟩
  have hdistinct : schema.Distinct [.codec [.indent true], .reader twoNames] := by
    refine ⟨(by decide : ["codec", "reader"].Nodup), ?_⟩
    rintro f (_ | ⟨_, _ | ⟨_, ⟨⟩⟩⟩)
    · exact hcodec
    · exact htwo
  have hmoved : schema.Rearranged [.codec [.indent true], .reader twoNames]
      [.reader twoNames, .codec [.indent true]] := by
    have hnames : FeatureSet.schema.Rearranged [.capabilities ["a", "b"]] [.capabilities ["a", "b"]] :=
      ⟨_, .cons rfl .nil, .refl _⟩
    have htwoNames : ReaderOptions.schema.Rearranged twoNames twoNames :=
      ⟨twoNames, .cons hnames .nil, .refl _⟩
    exact ⟨[.codec [.indent true], .reader twoNames],
      .cons ⟨_, .cons rfl .nil, .refl _⟩ (.cons htwoNames .nil), .swap _ _ _⟩
  have htwice : ¬ schema.Distinct [.codec [.indent true, .indent true]] := by
    intro hd
    have hrepeated : CodecOptions.schema.Distinct [.indent true, .indent true] :=
      hd.2 _ List.mem_cons_self
    exact absurd hrepeated.1 (by decide : ¬ ["indent", "indent"].Nodup)
  obtain ⟨hdecode, hofJson, horder⟩ := (decode_override gives_scatteredText).1 hdistinct
  exact ⟨hdecode, (hofJson _).mpr ⟨rfl, rfl⟩, horder _ _ hmoved gives_orderlyText,
    (decode_override gives_repeatedText).2 htwice⟩

end ShaderConvert.PipelineOptions
