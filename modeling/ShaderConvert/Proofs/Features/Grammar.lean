import Mathlib.Tactic
import ShaderConvert.Features
import ShaderConvert.Proofs.WordRoundTrip

/-
The scan of a module accepts exactly its grammar and reads it exactly.

A list of words that the scan accepts is a header with the magic number, then instructions that
declare features (`FeatureInstruction`), then nothing or one more instruction, which is whole and
declares none (`Ends`).  Such a list can be read in one way only (`Split`).

* `exists_front` — every list of words is a front of declarations and a rest that ends it or cannot
  be read (`Stuck`);
* `front_unique` — there is no second front, because neither kind of rest begins with a declaration;
* `scanFrom_front` — a scan goes through the front, one declaration after another, and then looks at
  the rest.

The main statement is `scan_grammar`.
-/
namespace ShaderConvert.ModuleFeatures

/-! ### The grammar -/

/-- A whole instruction that declares a feature: a capability with an operand, or an extension. -/
structure FeatureInstruction where
  first : Word
  operands : List Word
  length_eq : operands.length + 1 = wordCount first
  declares : (opcodeOf first = Opcode.capability ∧ 2 ≤ wordCount first) ∨
    opcodeOf first = Opcode.extension
deriving Repr, DecidableEq

namespace FeatureInstruction

def words (i : FeatureInstruction) : List Word := i.first :: i.operands

/-- The name of a capability is that of its first operand. -/
def feature (i : FeatureInstruction) : Feature :=
  if opcodeOf i.first = Opcode.capability then
    .capability (Capability.name (i.operands.headD 0).toNat)
  else .extension (Words.decodeLiteral i.operands)

end FeatureInstruction

/-- The words of instructions, one after another. -/
def wordsOf (front : List FeatureInstruction) : List Word := front.flatMap (·.words)

/-- The names of the first operands of the capabilities, in order. -/
def capabilitiesOf (front : List FeatureInstruction) : List String :=
  (front.filter fun i => opcodeOf i.first = Opcode.capability).map fun i =>
    Capability.name (i.operands.headD 0).toNat

/-- The names of the extensions, in order. -/
def extensionsOf (front : List FeatureInstruction) : List String :=
  (front.filter fun i => opcodeOf i.first = Opcode.extension).map fun i =>
    Words.decodeLiteral i.operands

/-- What may follow the declarations: nothing, or a whole instruction of another kind. -/
inductive Ends : List Word → Prop where
  | nil : Ends []
  | cons {w : Word} {r : List Word} (hone : 1 ≤ wordCount w)
      (hle : wordCount w ≤ (w :: r).length) (hcap : opcodeOf w ≠ Opcode.capability)
      (hext : opcodeOf w ≠ Opcode.extension) : Ends (w :: r)

/-- Words that cannot be read: the instruction at word `offset` has no length or is longer than what
is left, or it is a capability without an operand. -/
inductive Stuck (offset : ℕ) : List Word → ScanFault → Prop where
  | truncated {w : Word} {r : List Word}
      (h : wordCount w = 0 ∨ (w :: r).length < wordCount w) :
      Stuck offset (w :: r) (.truncated offset)
  | noCapability {w : Word} {r : List Word} (hcap : opcodeOf w = Opcode.capability)
      (hone : wordCount w = 1) : Stuck offset (w :: r) (.noCapability offset)

/-- A list of words as the grammar wants it. -/
structure Split (ws : List Word) where
  version : Word
  generator : Word
  bound : Word
  schema : Word
  front : List FeatureInstruction
  rest : List Word
  ends : Ends rest
  eq_append : ws = Words.magic :: version :: generator :: bound :: schema :: (wordsOf front ++ rest)

namespace Split

variable {ws : List Word}

/-- What a module says, read off its parts: the version is in bits 16 to 23 and 8 to 15. -/
def features (s : Split ws) : ModuleFeatures where
  major := UInt8.ofNat (s.version.toNat / 2 ^ 16 % 2 ^ 8)
  minor := UInt8.ofNat (s.version.toNat / 2 ^ 8 % 2 ^ 8)
  generator := s.generator
  bound := s.bound
  capabilities := capabilitiesOf s.front
  extensions := extensionsOf s.front

/-- The same header and declarations with another rest. -/
def withRest (s : Split ws) (r : List Word) : List Word :=
  Words.magic :: s.version :: s.generator :: s.bound :: s.schema :: (wordsOf s.front ++ r)

end Split

/-! ### One declaration -/

namespace FeatureInstruction

variable (i : FeatureInstruction)

theorem extension_of_ne (h : opcodeOf i.first ≠ Opcode.capability) :
    opcodeOf i.first = Opcode.extension := by
  rcases i.declares with ⟨hcap, -⟩ | hext
  · exact absurd hcap h
  · exact hext

theorem ne_extension (h : opcodeOf i.first = Opcode.capability) :
    opcodeOf i.first ≠ Opcode.extension := by
  rw [h]
  decide

theorem length_words : i.words.length = wordCount i.first := by
  rw [words, List.length_cons, i.length_eq]

/-- The operands of a declaration are as many words as its first word says. -/
theorem take_append (r : List Word) :
    (i.operands ++ r).take (wordCount i.first - 1) = i.operands := by
  rw [← i.length_eq, Nat.add_sub_cancel]
  exact List.take_left

theorem drop_append (r : List Word) : (i.operands ++ r).drop (wordCount i.first - 1) = r := by
  rw [← i.length_eq, Nat.add_sub_cancel]
  exact List.drop_left

/-- **A scan reads a declaration and goes on behind it.** -/
theorem scanFrom_append (fuel index : ℕ) (r : List Word) :
    scanFrom (fuel + 1) index (i.words ++ r)
      = (scanFrom fuel (index + i.words.length) r).map (i.feature :: ·) := by
  have hwhole : ¬ (wordCount i.first = 0 ∨ wordCount i.first > (i.operands ++ r).length + 1) := by
    have h := i.length_eq
    rw [List.length_append]
    omega
  rw [length_words, words, List.cons_append, scanFrom]
  simp only [if_neg hwhole, take_append, drop_append]
  by_cases hcap : opcodeOf i.first = Opcode.capability
  · rw [if_pos hcap, feature, if_pos hcap]
    rcases i.declares with ⟨-, htwo⟩ | hext
    · cases hops : i.operands with
      | nil =>
        have h := i.length_eq
        rw [hops, List.length_nil] at h
        omega
      | cons v more => rfl
    · exact absurd hext (i.ne_extension hcap)
  · rw [if_neg hcap, if_pos (i.extension_of_ne hcap), feature, if_neg hcap]

end FeatureInstruction

/-! ### The rest -/

theorem scanFrom_of_ends {rest : List Word} (h : Ends rest) (fuel index : ℕ) :
    scanFrom fuel index rest = .ok [] := by
  cases fuel with
  | zero => rfl
  | succ fuel =>
    cases h with
    | nil => rfl
    | @cons w r hone hle hcap hext =>
      have hwhole : ¬ (wordCount w = 0 ∨ wordCount w > r.length + 1) := by
        rw [List.length_cons] at hle
        omega
      rw [scanFrom]
      simp only [if_neg hwhole, if_neg hcap, if_neg hext]

theorem scanFrom_of_stuck {rest : List Word} {index fuel : ℕ} {f : ScanFault}
    (h : Stuck index rest f) (hfuel : rest.length ≤ fuel) :
    scanFrom fuel index rest = .error f := by
  cases fuel with
  | zero => cases h <;> simp at hfuel
  | succ fuel =>
    cases h with
    | @truncated w r hw =>
      rw [scanFrom]
      exact if_pos hw
    | @noCapability w r hcap hone =>
      have hwhole : ¬ (wordCount w = 0 ∨ wordCount w > r.length + 1) := by omega
      rw [scanFrom]
      simp only [if_neg hwhole, if_pos hcap]
      rw [hone]
      rfl

theorem Ends.ne_append {rest : List Word} (h : Ends rest) (i : FeatureInstruction) (r : List Word) :
    rest ≠ i.words ++ r := by
  rintro rfl
  cases h with
  | cons hone hle hcap hext =>
    rcases i.declares with ⟨hop, -⟩ | hop
    · exact hcap hop
    · exact hext hop

theorem Stuck.ne_append {rest : List Word} {index : ℕ} {f : ScanFault} (h : Stuck index rest f)
    (i : FeatureInstruction) (r : List Word) : rest ≠ i.words ++ r := by
  have hlen := i.length_eq
  intro heq
  rw [FeatureInstruction.words, List.cons_append] at heq
  subst heq
  cases h with
  | truncated hw =>
    rw [List.length_cons, List.length_append] at hw
    omega
  | noCapability hcap hone =>
    rcases i.declares with ⟨-, htwo⟩ | hext
    · omega
    · exact i.ne_extension hcap hext

/-- A fault names the word at which the instruction begins. -/
theorem Stuck.message {rest : List Word} {index : ℕ} {f : ScanFault} (h : Stuck index rest f) :
    f.message = s!"truncated instruction at word {index}" ∨
      f.message = s!"OpCapability without operand at word {index}" := by
  cases h with
  | truncated => exact .inl rfl
  | noCapability => exact .inr rfl

/-! ### The front -/

theorem wordsOf_cons (i : FeatureInstruction) (front : List FeatureInstruction) :
    wordsOf (i :: front) = i.words ++ wordsOf front := List.flatMap_cons

/-- **A scan goes through all declarations** and then looks at the rest, with words enough left. -/
theorem scanFrom_front (front : List FeatureInstruction) (rest : List Word) {fuel : ℕ} (index : ℕ)
    (hfuel : (wordsOf front ++ rest).length ≤ fuel) :
    ∃ left, rest.length ≤ left ∧ scanFrom fuel index (wordsOf front ++ rest)
      = (scanFrom left (index + (wordsOf front).length) rest).map
          (front.map FeatureInstruction.feature ++ ·) := by
  induction front generalizing fuel index with
  | nil =>
    refine ⟨fuel, hfuel, ?_⟩
    show scanFrom fuel index rest = (scanFrom fuel index rest).map id
    cases scanFrom fuel index rest <;> rfl
  | cons i front ih =>
    rw [wordsOf_cons, List.append_assoc] at hfuel ⊢
    have hpos := i.length_eq
    rw [List.length_append, i.length_words] at hfuel
    obtain ⟨fuel, rfl⟩ : ∃ n, fuel = n + 1 := ⟨fuel - 1, by omega⟩
    have hshorter : (wordsOf front ++ rest).length ≤ fuel := by omega
    obtain ⟨left, hleft, hscan⟩ := ih (index + i.words.length) hshorter
    refine ⟨left, hleft, ?_⟩
    rw [i.scanFrom_append, hscan, List.length_append, ← Nat.add_assoc]
    cases scanFrom left (index + i.words.length + (wordsOf front).length) rest <;> rfl

/-- **Every list of words is a front of declarations and a rest** that ends it or cannot be read. -/
theorem exists_front (ws : List Word) (offset : ℕ) :
    ∃ front rest, ws = wordsOf front ++ rest ∧
      (Ends rest ∨ ∃ f, Stuck (offset + (wordsOf front).length) rest f) := by
  -- by the number of words: behind a declaration there are fewer
  induction hn : ws.length using Nat.strong_induction_on generalizing ws offset with
  | _ n ih =>
    cases ws with
    | nil => exact ⟨[], [], rfl, .inl .nil⟩
    | cons w r =>
      by_cases hw : wordCount w = 0 ∨ (w :: r).length < wordCount w
      · exact ⟨[], w :: r, rfl, .inr ⟨_, .truncated hw⟩⟩
      by_cases hcap : opcodeOf w = Opcode.capability ∧ wordCount w = 1
      · exact ⟨[], w :: r, rfl, .inr ⟨_, .noCapability hcap.1 hcap.2⟩⟩
      by_cases hfeature : opcodeOf w = Opcode.capability ∨ opcodeOf w = Opcode.extension
      · rw [List.length_cons] at hw hn
        have hlen : (r.take (wordCount w - 1)).length + 1 = wordCount w := by
          rw [List.length_take]
          omega
        have hdeclares : (opcodeOf w = Opcode.capability ∧ 2 ≤ wordCount w) ∨
            opcodeOf w = Opcode.extension := by
          rcases hfeature with h | h
          · refine .inl ⟨h, ?_⟩
            have hne : wordCount w ≠ 1 := fun hone => hcap ⟨h, hone⟩
            omega
          · exact .inr h
        let i : FeatureInstruction := ⟨w, r.take (wordCount w - 1), hlen, hdeclares⟩
        obtain ⟨front, rest, heq, hrest⟩ :=
          ih (r.drop (wordCount w - 1)).length (by rw [List.length_drop]; omega)
            (r.drop (wordCount w - 1)) (offset + i.words.length) rfl
        refine ⟨i :: front, rest, ?_, ?_⟩
        · rw [wordsOf_cons, List.append_assoc, ← heq, FeatureInstruction.words, List.cons_append,
            List.take_append_drop]
        · rw [wordsOf_cons, List.length_append, ← Nat.add_assoc]
          exact hrest
      · obtain ⟨hc, he⟩ := not_or.mp hfeature
        exact ⟨[], w :: r, rfl, .inl (.cons (by omega) (by omega) hc he)⟩

/-- **There is only one front** before a rest that does not begin with a declaration. -/
theorem front_unique {a b : List FeatureInstruction} {r s : List Word}
    (hr : ∀ i x, r ≠ FeatureInstruction.words i ++ x)
    (hs : ∀ i x, s ≠ FeatureInstruction.words i ++ x)
    (h : wordsOf a ++ r = wordsOf b ++ s) : a = b ∧ r = s := by
  induction a generalizing b with
  | nil =>
    cases b with
    | nil => exact ⟨rfl, h⟩
    | cons j b =>
      rw [wordsOf_cons, List.append_assoc] at h
      exact absurd h (hr j _)
  | cons i a ih =>
    cases b with
    | nil =>
      rw [wordsOf_cons, List.append_assoc] at h
      exact absurd h.symm (hs i _)
    | cons j b =>
      rw [wordsOf_cons, wordsOf_cons, List.append_assoc, List.append_assoc] at h
      -- both begin with the same first word, so the two declarations are equally long
      have hfirst : i.first = j.first := by
        rw [FeatureInstruction.words, FeatureInstruction.words] at h
        exact (List.cons.inj h).1
      have hlen : i.words.length = j.words.length := by
        rw [i.length_words, j.length_words, hfirst]
      obtain ⟨hwords, htail⟩ := List.append_inj h hlen
      obtain ⟨rfl, rfl⟩ := ih htail
      have hij : i = j := by
        cases i
        cases j
        cases hwords
        rfl
      exact ⟨by rw [hij], rfl⟩

/-! ### Whole modules -/

theorem filterMap_capability (front : List FeatureInstruction) :
    (front.map FeatureInstruction.feature).filterMap (fun
      | .capability n => some n
      | .extension _ => none) = capabilitiesOf front := by
  induction front with
  | nil => rfl
  | cons i front ih =>
    rw [List.map_cons, FeatureInstruction.feature]
    by_cases hcap : opcodeOf i.first = Opcode.capability
    · rw [if_pos hcap, capabilitiesOf, List.filter_cons_of_pos (by simpa using hcap)]
      exact congrArg (List.cons _) ih
    · rw [if_neg hcap, capabilitiesOf, List.filter_cons_of_neg (by simpa using hcap)]
      exact ih

theorem filterMap_extension (front : List FeatureInstruction) :
    (front.map FeatureInstruction.feature).filterMap (fun
      | .capability _ => none
      | .extension n => some n) = extensionsOf front := by
  induction front with
  | nil => rfl
  | cons i front ih =>
    rw [List.map_cons, FeatureInstruction.feature]
    by_cases hcap : opcodeOf i.first = Opcode.capability
    · have hext := i.ne_extension hcap
      rw [if_pos hcap, extensionsOf, List.filter_cons_of_neg (by simpa using hext)]
      exact ih
    · have hext := i.extension_of_ne hcap
      rw [if_neg hcap, extensionsOf, List.filter_cons_of_pos (by simpa using hext)]
      exact congrArg (List.cons _) ih

/-- A byte of a word, by a shift and as a number. -/
theorem toUInt8_shiftRight (w : Word) {n : UInt32} (hn : n.toNat < 32) :
    (w >>> n).toUInt8 = UInt8.ofNat (w.toNat / 2 ^ n.toNat % 2 ^ 8) := by
  rw [← UInt8.toNat_inj, Words.toNat_toUInt8_shiftRight w hn, UInt8.toNat_ofNat']
  exact (Nat.mod_mod _ _).symm

/-- A scan of a module with a header is a scan of what comes behind it. -/
theorem scan_header (version generator bound schema : Word) (r : List Word) :
    scan (Words.magic :: version :: generator :: bound :: schema :: r)
      = (scanFrom r.length headerWords r).map fun fs =>
          { major := UInt8.ofNat (version.toNat / 2 ^ 16 % 2 ^ 8)
            minor := UInt8.ofNat (version.toNat / 2 ^ 8 % 2 ^ 8)
            generator := generator
            bound := bound
            capabilities := fs.filterMap fun
              | .capability n => some n
              | .extension _ => none
            extensions := fs.filterMap fun
              | .capability _ => none
              | .extension n => some n } := by
  have hmajor := toUInt8_shiftRight version (n := 16) (by decide)
  have hminor := toUInt8_shiftRight version (n := 8) (by decide)
  simp only [UInt32.reduceToNat] at hmajor hminor
  rw [← hmajor, ← hminor]
  rfl

/-- **A module that splits is read off its parts.** -/
theorem scan_of_split {ws : List Word} (s : Split ws) : scan ws = .ok s.features := by
  obtain ⟨left, -, hscan⟩ := scanFrom_front s.front s.rest headerWords le_rfl
  rw [scanFrom_of_ends s.ends, Except.map, List.append_nil] at hscan
  calc scan ws
      = scan (s.withRest s.rest) := congrArg scan s.eq_append
    _ = .ok s.features := by
      rw [Split.withRest, scan_header, hscan, Except.map, filterMap_capability, filterMap_extension]
      rfl

/-- **A module with a header that does not split fails** behind its declarations. -/
theorem scan_of_stuck {version generator bound schema : Word} {front : List FeatureInstruction}
    {rest : List Word} {f : ScanFault} (h : Stuck (headerWords + (wordsOf front).length) rest f) :
    scan (Words.magic :: version :: generator :: bound :: schema :: (wordsOf front ++ rest))
      = .error f := by
  obtain ⟨left, hleft, hscan⟩ := scanFrom_front front rest headerWords le_rfl
  rw [scanFrom_of_stuck h hleft] at hscan
  rw [scan_header, hscan]
  rfl

theorem header_of_scan {ws : List Word} {m : ModuleFeatures} (h : scan ws = .ok m) :
    ∃ version generator bound schema r,
      ws = Words.magic :: version :: generator :: bound :: schema :: r := by
  unfold scan at h
  split at h
  · next w version generator bound schema r =>
    split_ifs at h with hm
    rw [not_ne_iff] at hm
    exact ⟨version, generator, bound, schema, r, by rw [hm]⟩
  · cases h

theorem nonempty_split {ws : List Word} {m : ModuleFeatures} (h : scan ws = .ok m) :
    Nonempty (Split ws) := by
  obtain ⟨version, generator, bound, schema, r, rfl⟩ := header_of_scan h
  obtain ⟨front, rest, rfl, hends | ⟨f, hstuck⟩⟩ := exists_front r headerWords
  · exact ⟨⟨version, generator, bound, schema, front, rest, hends, rfl⟩⟩
  · rw [scan_of_stuck hstuck] at h
    cases h

/-- **A module splits in one way only.** -/
theorem split_unique {ws : List Word} (s t : Split ws) : s = t := by
  have heq := s.eq_append.symm.trans t.eq_append
  simp only [List.cons.injEq, true_and] at heq
  obtain ⟨hversion, hgenerator, hbound, hschema, hwords⟩ := heq
  obtain ⟨hfront, hrest⟩ := front_unique s.ends.ne_append t.ends.ne_append hwords
  cases s
  cases t
  cases hversion
  cases hgenerator
  cases hbound
  cases hschema
  cases hfront
  cases hrest
  rfl

/-- Of the rest, a scan needs the first word and as many words as it says. -/
theorem Ends.of_head {rest rest' : List Word} (h : Ends rest) (hhead : rest'.head? = rest.head?)
    (hlen : ∀ w, rest.head? = some w → wordCount w ≤ rest'.length) : Ends rest' := by
  cases h with
  | nil =>
    rw [List.head?_eq_none_iff.mp hhead]
    exact .nil
  | cons hone hle hcap hext =>
    obtain ⟨r, rfl⟩ := List.head?_eq_some_iff.mp hhead
    exact .cons hone (hlen _ rfl) hcap hext

theorem scan_withRest {ws : List Word} (s : Split ws) {rest : List Word} (h : Ends rest) :
    scan (s.withRest rest) = .ok s.features :=
  scan_of_split ⟨s.version, s.generator, s.bound, s.schema, s.front, rest, h, rfl⟩

/-- **A scan accepts exactly the modules that split**, the split is unique and is what the scan
reads.  Of what follows the declarations only the first word counts, and that there are as many
words as it says.  A module with a good header that does not split is refused with the offset of the
one instruction, behind its declarations, that cannot be read. -/
theorem scan_grammar (ws : List Word) :
    ((∃ m, scan ws = .ok m) ↔ Nonempty (Split ws)) ∧
    (∀ s t : Split ws, s = t) ∧
    (∀ s : Split ws, scan ws = .ok s.features) ∧
    (∀ (s : Split ws) (rest : List Word), rest.head? = s.rest.head? →
      (∀ w, s.rest.head? = some w → wordCount w ≤ rest.length) →
        scan (s.withRest rest) = scan ws) ∧
    (∀ version generator bound schema r,
      ws = Words.magic :: version :: generator :: bound :: schema :: r → IsEmpty (Split ws) →
        ∃ front rest offset f, r = wordsOf front ++ rest ∧
          offset = headerWords + (wordsOf front).length ∧ Stuck offset rest f ∧
          (∀ front' rest' offset' g, r = wordsOf front' ++ rest' → Stuck offset' rest' g →
            front' = front ∧ rest' = rest) ∧
          scan ws = .error f ∧
          (f.message = s!"truncated instruction at word {offset}" ∨
            f.message = s!"OpCapability without operand at word {offset}")) := by
  refine ⟨⟨fun ⟨m, hm⟩ => nonempty_split hm, fun ⟨s⟩ => ⟨_, scan_of_split s⟩⟩, split_unique,
    scan_of_split, ?_, ?_⟩
  · intro s rest hhead hlen
    rw [scan_withRest s (s.ends.of_head hhead hlen), scan_of_split s]
  · rintro version generator bound schema r rfl hnone
    obtain ⟨front, rest, rfl, hends | ⟨f, hstuck⟩⟩ := exists_front r headerWords
    · exact (hnone.false ⟨version, generator, bound, schema, front, rest, hends, rfl⟩).elim
    · refine ⟨front, rest, _, f, rfl, rfl, hstuck, ?_, scan_of_stuck hstuck, hstuck.message⟩
      intro front' rest' offset' g heq hstuck'
      exact front_unique hstuck'.ne_append hstuck.ne_append heq.symm

/-- A capability with a surplus operand and an extension in front of the memory model. -/
def declaringWords : List Word :=
  [Words.magic, 0x00010300, 7, 9, 0, 0x00030011, 1, 5, 0x0002000A, 0x00636261, 0x0003000E, 0, 1]

def declaringSplit : Split declaringWords where
  version := 0x00010300
  generator := 7
  bound := 9
  schema := 0
  front :=
    [⟨0x00030011, [1, 5], by decide, by decide⟩, ⟨0x0002000A, [0x00636261], by decide, by decide⟩]
  rest := [0x0003000E, 0, 1]
  ends := .cons (by decide) (by decide) (by decide) (by decide)
  eq_append := rfl

/-- The words behind the memory model do not count; cut short by one word, the module is refused at
word 10. -/
theorem scan_grammar_declaring :
    scan (declaringSplit.withRest [0x0003000E, 8, 8, 8])
      = .ok ⟨1, 3, 7, 9, ["Shader"], ["abc"]⟩ ∧
    ∃ front rest f, declaringWords.dropLast.drop headerWords = wordsOf front ++ rest ∧
      Stuck 10 rest f ∧ scan declaringWords.dropLast = .error f := by
  obtain ⟨-, -, hscan, hrest, -⟩ := scan_grammar declaringWords
  obtain ⟨hiff, -, -, -, herror⟩ := scan_grammar declaringWords.dropLast
  refine ⟨?_, ?_⟩
  · have hlong : ∀ w, declaringSplit.rest.head? = some w → wordCount w ≤ 4 := by
      rintro w ⟨⟩
      decide
    rw [hrest declaringSplit [0x0003000E, 8, 8, 8] rfl hlong, hscan declaringSplit]
    decide +kernel
  · have hcut : scan declaringWords.dropLast = .error (.truncated 10) := by decide +kernel
    have hnone : IsEmpty (Split declaringWords.dropLast) := by
      rw [← not_nonempty_iff, ← hiff]
      rintro ⟨m, hm⟩
      rw [hcut] at hm
      cases hm
    obtain ⟨front, rest, offset, f, hwords, -, hstuck, -, hf, -⟩ := herror _ _ _ _ _ rfl hnone
    refine ⟨front, rest, f, hwords, ?_, hf⟩
    rw [hcut] at hf
    cases hf
    cases hstuck with
    | truncated hw => exact .truncated hw

end ShaderConvert.ModuleFeatures
