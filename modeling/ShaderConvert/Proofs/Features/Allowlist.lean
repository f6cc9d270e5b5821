import Mathlib.Tactic
import ShaderConvert.Proofs.Pipeline.Execution
import ShaderConvert.Tools

/-
The list of allowed features is exact and cannot be passed by.

* `check_eq_ok_iff`, `exists_refuses` — a module is accepted if and only if all that its scan lists
  is allowed, and else refused for the first feature that is not;
* `check_of_enlarges` — a longer list accepts no less.

The scan stops at the first instruction that declares no feature.  `instructions` goes on to the end
of the module, from one instruction to the next.  What the scan lists are the declarations at its
front (`map_feature?_takeWhile`).  So if the reader of binaries refuses declarations further on
(`Toolchain.RejectsLateFeatures`), a module that is turned into source declares only what is
allowed, on both ways that lead to the reader (`allowlist_exact`).
-/
namespace ShaderConvert

/-! ### All instructions of a module -/

/-- An instruction as it stands in a module. -/
structure RawInstruction where
  opcode : ℕ
  operands : List Word
deriving Repr, DecidableEq

namespace RawInstruction

def isFeature (i : RawInstruction) : Bool :=
  i.opcode = Opcode.capability || i.opcode = Opcode.extension

/-- The feature that an instruction declares.  A capability needs an operand. -/
def feature? (i : RawInstruction) : Option ModuleFeatures.Feature :=
  if i.opcode = Opcode.capability then
    i.operands.head?.map fun v => .capability (Capability.name v.toNat)
  else if i.opcode = Opcode.extension then some (.extension (Words.decodeLiteral i.operands))
  else none

end RawInstruction

/-- The instructions of a list of words, one after another to its end.  An instruction that is
longer than what is left has the operands that are there; one without a length is the last. -/
def instructionsFrom : List Word → List RawInstruction
  | [] => []
  | w :: r =>
    ⟨opcodeOf w, r.take (wordCount w - 1)⟩ ::
      if wordCount w = 0 then [] else instructionsFrom (r.drop (wordCount w - 1))
termination_by ws => ws.length
decreasing_by
  rw [List.length_drop, List.length_cons]
  omega

/-- The instructions of a module, those behind its header. -/
def instructions (ws : List Word) : List RawInstruction := instructionsFrom (ws.drop headerWords)

/-- No capability and no extension comes after an instruction of another kind. -/
def FeaturesFirst (ws : List Word) : Prop :=
  (instructions ws).Pairwise fun i j => j.isFeature = true → i.isFeature = true

instance (ws : List Word) : Decidable (FeaturesFirst ws) :=
  inferInstanceAs (Decidable (List.Pairwise _ _))

theorem instructionsFrom_cons {w : Word} (h : wordCount w ≠ 0) (r : List Word) :
    instructionsFrom (w :: r)
      = ⟨opcodeOf w, r.take (wordCount w - 1)⟩ :: instructionsFrom (r.drop (wordCount w - 1)) := by
  rw [instructionsFrom, if_neg h]

/-! ### What a scan lists -/

theorem exists_of_map_eq_ok {ε α β : Type} {f : α → β} {x : Except ε α} {b : β}
    (h : x.map f = .ok b) : ∃ a, x = .ok a ∧ f a = b := by
  cases x with
  | error e => cases h
  | ok a => exact ⟨a, rfl, Except.ok.inj h⟩

namespace ModuleFeatures

/-- One step of a scan that succeeds: the instruction is whole, and either it declares a feature and
the scan goes on behind it, or it declares none and the scan ends. -/
theorem scanFrom_cons_eq_ok {fuel index : ℕ} {w : Word} {r : List Word} {fs : List Feature}
    (h : scanFrom (fuel + 1) index (w :: r) = .ok fs) :
    wordCount w ≠ 0 ∧
      let i : RawInstruction := ⟨opcodeOf w, r.take (wordCount w - 1)⟩
      (i.isFeature = false ∧ fs = []) ∨
        ∃ f gs, i.isFeature = true ∧ i.feature? = some f ∧ fs = f :: gs ∧
          scanFrom fuel (index + wordCount w) (r.drop (wordCount w - 1)) = .ok gs := by
  rw [scanFrom] at h
  simp only at h
  split_ifs at h with hn hcap hext
  · refine ⟨fun h0 => hn (.inl h0), .inr ?_⟩
    split at h
    · cases h
    · next v more hops =>
      obtain ⟨gs, hgs, rfl⟩ := exists_of_map_eq_ok h
      refine ⟨_, gs, ?_, ?_, rfl, hgs⟩
      · simp [RawInstruction.isFeature, hcap]
      · simp [RawInstruction.feature?, hcap, hops]
  · refine ⟨fun h0 => hn (.inl h0), .inr ?_⟩
    obtain ⟨gs, hgs, rfl⟩ := exists_of_map_eq_ok h
    refine ⟨_, gs, ?_, ?_, rfl, hgs⟩
    · simp [RawInstruction.isFeature, hext]
    · rw [RawInstruction.feature?, if_neg hcap, if_pos hext]
  · cases h
    refine ⟨fun h0 => hn (.inl h0), .inl ⟨?_, rfl⟩⟩
    simp [RawInstruction.isFeature, hcap, hext]

/-- **A scan lists the declarations at the front of the instructions**, all of them and no other. -/
theorem map_feature?_takeWhile {fuel index : ℕ} {ws : List Word} {fs : List Feature}
    (hfuel : ws.length ≤ fuel) (h : scanFrom fuel index ws = .ok fs) :
    ((instructionsFrom ws).takeWhile (·.isFeature)).map (·.feature?) = fs.map some := by
  induction fuel generalizing index ws fs with
  | zero =>
    obtain rfl : ws = [] := List.length_eq_zero_iff.mp (by omega)
    cases h
    simp [instructionsFrom]
  | succ fuel ih =>
    cases ws with
    | nil =>
      cases h
      simp [instructionsFrom]
    | cons w r =>
      obtain ⟨hw, hstep⟩ := scanFrom_cons_eq_ok h
      rw [instructionsFrom_cons hw]
      rcases hstep with ⟨hi, rfl⟩ | ⟨f, gs, hi, hf, rfl, hgs⟩
      · rw [List.takeWhile_cons_of_neg (by simp [hi])]
        rfl
      · have hrest := ih (by grind) hgs
        rw [List.takeWhile_cons_of_pos hi, List.map_cons, List.map_cons, hf, hrest]

/-- What a scan reads: the magic number and the declarations at the front, all of which it lists. -/
theorem scan_eq_ok {ws : List Word} {m : ModuleFeatures} (h : scan ws = .ok m) :
    ws.head? = some Words.magic ∧
      ∃ fs : List Feature,
        ((instructions ws).takeWhile (·.isFeature)).map (·.feature?) = fs.map some ∧
        (∀ n, .capability n ∈ fs → n ∈ m.capabilities) ∧
        (∀ n, .extension n ∈ fs → n ∈ m.extensions) := by
  unfold scan at h
  split at h
  · next w version generator bound schema r =>
    split_ifs at h with hm
    obtain ⟨fs, hfs, rfl⟩ := exists_of_map_eq_ok h
    rw [not_ne_iff] at hm
    refine ⟨congrArg some hm, fs, map_feature?_takeWhile le_rfl hfs, fun n hn => ?_, fun n hn => ?_⟩
    · exact List.mem_filterMap.mpr ⟨_, hn, rfl⟩
    · exact List.mem_filterMap.mpr ⟨_, hn, rfl⟩
  · cases h

end ModuleFeatures

/-! ### The check -/

namespace FeatureSet

/-- All that a module lists is allowed. -/
def Allows (s : FeatureSet) (m : ModuleFeatures) : Prop :=
  (∀ n ∈ m.capabilities, s.allowsCapability n = true) ∧
    ∀ n ∈ m.extensions, s.allowsExtension n = true

/-- The first feature of a module that is not allowed: capabilities come before extensions, and each
in the order of their declarations. -/
inductive Refuses (s : FeatureSet) (m : ModuleFeatures) : FeatureFault → Prop where
  | capability {before after : List String} {n : String}
      (hm : m.capabilities = before ++ n :: after)
      (hbefore : ∀ x ∈ before, s.allowsCapability x = true)
      (hn : s.allowsCapability n = false) : Refuses s m (.capability n)
  | extension {before after : List String} {n : String}
      (hall : ∀ x ∈ m.capabilities, s.allowsCapability x = true)
      (hm : m.extensions = before ++ n :: after)
      (hbefore : ∀ x ∈ before, s.allowsExtension x = true)
      (hn : s.allowsExtension n = false) : Refuses s m (.extension n)

/-- Names are added, or everything is allowed. -/
inductive Enlarges : FeatureSet → FeatureSet → Prop where
  | everything (s : FeatureSet) : Enlarges s .everything
  | only {cs es cs' es' : List String} (hc : cs ⊆ cs') (he : es ⊆ es') :
      Enlarges (.only cs es) (.only cs' es')

/-- A check of a module that can be scanned accepts it or names what is refused first. -/
theorem check_cases (s : FeatureSet) {ws : List Word} {m : ModuleFeatures}
    (h : ModuleFeatures.scan ws = .ok m) :
    (s.check ws = .ok m ∧ s.Allows m) ∨ ∃ f, s.check ws = .error f ∧ s.Refuses m f := by
  simp only [check, h]
  cases hc : m.capabilities.find? (!s.allowsCapability ·) with
  | some n =>
    obtain ⟨hn, before, after, hm, hbefore⟩ := List.find?_eq_some_iff_append.mp hc
    exact .inr ⟨_, rfl, .capability hm (by simpa using hbefore) (by simpa using hn)⟩
  | none =>
    have hall : ∀ x ∈ m.capabilities, s.allowsCapability x = true := by
      simpa using List.find?_eq_none.mp hc
    cases he : m.extensions.find? (!s.allowsExtension ·) with
    | some n =>
      obtain ⟨hn, before, after, hm, hbefore⟩ := List.find?_eq_some_iff_append.mp he
      exact .inr ⟨_, rfl, .extension hall hm (by simpa using hbefore) (by simpa using hn)⟩
    | none => exact .inl ⟨rfl, hall, by simpa using List.find?_eq_none.mp he⟩

theorem Refuses.not_allows {s : FeatureSet} {m : ModuleFeatures} {f : FeatureFault}
    (h : s.Refuses m f) : ¬ s.Allows m := by
  rintro ⟨hc, he⟩
  cases h with
  | capability hm _ hn =>
    have hn' := hc _ (by rw [hm]; exact List.mem_append_right _ List.mem_cons_self)
    rw [hn] at hn'
    cases hn'
  | extension _ hm _ hn =>
    have hn' := he _ (by rw [hm]; exact List.mem_append_right _ List.mem_cons_self)
    rw [hn] at hn'
    cases hn'

/-- **A module is accepted if and only if all that it lists is allowed**; the answer is the scan. -/
theorem check_eq_ok_iff {s : FeatureSet} {ws : List Word} {m : ModuleFeatures} :
    s.check ws = .ok m ↔ ModuleFeatures.scan ws = .ok m ∧ s.Allows m := by
  constructor
  · intro h
    cases hs : ModuleFeatures.scan ws with
    | error f =>
      simp only [check, hs] at h
      cases h
    | ok m' =>
      rcases s.check_cases hs with ⟨hok, hall⟩ | ⟨f, herr, -⟩
      · rw [hok] at h
        cases h
        exact ⟨rfl, hall⟩
      · rw [herr] at h
        cases h
  · rintro ⟨hs, hall⟩
    rcases s.check_cases hs with ⟨hok, -⟩ | ⟨f, -, hf⟩
    · exact hok
    · exact absurd hall hf.not_allows

/-- **A module that is not accepted is refused for the first feature that is not allowed.** -/
theorem exists_refuses {s : FeatureSet} {ws : List Word} {m : ModuleFeatures}
    (h : ModuleFeatures.scan ws = .ok m) (hs : ¬ s.Allows m) :
    ∃ f, s.check ws = .error f ∧ s.Refuses m f := by
  rcases s.check_cases h with ⟨-, hall⟩ | hf
  · exact absurd hall hs
  · exact hf

theorem Enlarges.allows {s s' : FeatureSet} (h : s.Enlarges s') {m : ModuleFeatures}
    (hm : s.Allows m) : s'.Allows m := by
  cases h with
  | everything => exact ⟨fun _ _ => rfl, fun _ _ => rfl⟩
  | only hc he =>
    refine ⟨fun n hn => ?_, fun n hn => ?_⟩
    · have hn' := hm.1 n hn
      simp only [allowsCapability, List.contains_iff_mem] at hn' ⊢
      exact hc hn'
    · have hn' := hm.2 n hn
      simp only [allowsExtension, List.contains_iff_mem] at hn' ⊢
      exact he hn'

/-- **A longer list accepts no less.** -/
theorem check_of_enlarges {s s' : FeatureSet} (h : s.Enlarges s') {ws : List Word}
    {m : ModuleFeatures} (hm : s.check ws = .ok m) : s'.check ws = .ok m := by
  obtain ⟨hscan, hall⟩ := check_eq_ok_iff.mp hm
  exact check_eq_ok_iff.mpr ⟨hscan, h.allows hall⟩

end FeatureSet

/-! ### From the front of a module to its end -/

/-- Every capability that a module declares has a name in `cs`, and every extension one in `es`. -/
def DeclaresOnly (cs es : List String) (ws : List Word) : Prop :=
  ∀ i ∈ instructions ws,
    (i.opcode = Opcode.capability →
      ∃ v more, i.operands = v :: more ∧ Capability.name v.toNat ∈ cs) ∧
    (i.opcode = Opcode.extension → Words.decodeLiteral i.operands ∈ es)

/-- If declarations come first, all of them stand at the front. -/
theorem mem_takeWhile_isFeature {l : List RawInstruction}
    (h : l.Pairwise fun i j => j.isFeature = true → i.isFeature = true) {i : RawInstruction}
    (hi : i ∈ l) (hf : i.isFeature = true) : i ∈ l.takeWhile (·.isFeature) := by
  induction l with
  | nil => cases hi
  | cons a l ih =>
    obtain ⟨hfirst, hrest⟩ := List.pairwise_cons.mp h
    rcases List.mem_cons.mp hi with rfl | hi
    · rw [List.takeWhile_cons_of_pos hf]
      exact List.mem_cons_self
    · rw [List.takeWhile_cons_of_pos (hfirst i hi hf)]
      exact List.mem_cons_of_mem a (ih hrest hi)

/-- **An accepted module declares only what is allowed, to its end**, if declarations come first. -/
theorem declaresOnly_of_check {cs es : List String} {ws : List Word} {m : ModuleFeatures}
    (h : (FeatureSet.only cs es).check ws = .ok m) (hfirst : FeaturesFirst ws) :
    DeclaresOnly cs es ws := by
  obtain ⟨hscan, hcaps, hexts⟩ := FeatureSet.check_eq_ok_iff.mp h
  obtain ⟨-, fs, hfs, hc, he⟩ := ModuleFeatures.scan_eq_ok hscan
  have hlisted : ∀ i ∈ instructions ws, i.isFeature = true → ∃ f ∈ fs, i.feature? = some f := by
    intro i hi hf
    have hmem := List.mem_map_of_mem (f := RawInstruction.feature?)
      (mem_takeWhile_isFeature hfirst hi hf)
    rw [hfs, List.mem_map] at hmem
    obtain ⟨f, hf', heq⟩ := hmem
    exact ⟨f, hf', heq.symm⟩
  intro i hi
  refine ⟨fun hcap => ?_, fun hext => ?_⟩
  · obtain ⟨f, hf, heq⟩ := hlisted i hi (by simp [RawInstruction.isFeature, hcap])
    rw [RawInstruction.feature?, if_pos hcap, Option.map_eq_some_iff] at heq
    obtain ⟨v, hv, rfl⟩ := heq
    obtain ⟨more, hops⟩ := List.head?_eq_some_iff.mp hv
    have hallowed := hcaps _ (hc _ hf)
    exact ⟨v, more, hops, by simpa [FeatureSet.allowsCapability] using hallowed⟩
  · obtain ⟨f, hf, heq⟩ := hlisted i hi (by simp [RawInstruction.isFeature, hext])
    have hne : i.opcode ≠ Opcode.capability := by
      rw [hext]
      decide
    rw [RawInstruction.feature?, if_neg hne, if_pos hext, Option.some_inj] at heq
    subst heq
    have hallowed := hexts _ (he _ hf)
    simpa [FeatureSet.allowsExtension] using hallowed

/-! ### Conversions to source -/

/-- Modules in which a capability or an extension comes after something else are not read. -/
def Toolchain.RejectsLateFeatures {M : Type} (tools : Toolchain M) : Prop :=
  ∀ settings ws m, tools.parseBinary settings ws = .ok m → FeaturesFirst ws

/-- A binary is read only after its check. -/
theorem Stages.parseBinary_eq_ok {M : Type} {tools : Toolchain M} {o : ReaderOptions}
    {ws : List Word} {m : M} (h : parseBinary tools o ws = .ok m) :
    ∃ features settings m', o.allowedFeatures.check ws = .ok features ∧
      tools.parseBinary settings ws = .ok m' := by
  unfold parseBinary parseBinaryWith at h
  split at h
  · cases h
  · next features hcheck =>
    obtain ⟨m', hm', -⟩ := Reply.bind_eq_ok.mp h
    exact ⟨features, _, m', hcheck, Reply.mapError_eq_ok.mp hm'⟩

namespace Pipeline

variable {M : Type} {tools : Toolchain M} {o : PipelineOptions}

/-- The way from a binary to source leads through the reader, with validation and without. -/
theorem parseBinary_of_exec_chain {ws : List Word} {ds : List Diagnostic} {w : StageValue M}
    (h : exec tools o (Conversion.chain o.validateBinary .binaryToSource) (.words ws)
      = .ok (ds, w)) : ∃ m, Stages.parseBinary tools o.reader ws = .ok m := by
  have hread : ∀ es, exec tools o [.parseBinary, .emitSource] (.words ws) = .ok (es, w) →
      ∃ m, Stages.parseBinary tools o.reader ws = .ok m := by
    intro es hx
    obtain ⟨x, -, -, hrun, -⟩ := exec_cons_eq_ok hx
    obtain ⟨m, hm, -⟩ := Reply.map_eq_ok.mp hrun
    exact ⟨m, hm⟩
  cases hv : o.validateBinary with
  | false =>
    rw [hv] at h
    exact hread ds h
  | true =>
    rw [hv] at h
    obtain ⟨x, -, es, hrun, -, hx, -⟩ := exec_cons_eq_ok h
    -- validation hands on the words that it was given
    obtain ⟨u, -, rfl⟩ := Reply.map_eq_ok.mp hrun
    exact hread es hx

/-- **What goes through the reader declares only what is allowed.** -/
theorem declaresOnly_of_exec_chain (hr : tools.RejectsLateFeatures) {cs es : List String}
    (ho : o.reader.allowedFeatures = .only cs es) {ws : List Word} {ds : List Diagnostic}
    {w : StageValue M}
    (h : exec tools o (Conversion.chain o.validateBinary .binaryToSource) (.words ws)
      = .ok (ds, w)) : DeclaresOnly cs es ws := by
  obtain ⟨m, hm⟩ := parseBinary_of_exec_chain h
  obtain ⟨features, settings, m', hcheck, hread⟩ := Stages.parseBinary_eq_ok hm
  rw [ho] at hcheck
  exact declaresOnly_of_check hcheck (hr settings ws m' hread)

/-- After the assembler, the way from assembly to source is that of a binary. -/
theorem chain_assemblyToSource_eq_cons (validate : Bool) :
    Conversion.chain validate .assemblyToSource
      = .assemble :: Conversion.chain validate .binaryToSource := by
  cases validate <;> rfl

theorem declaresOnly_of_binaryToSource (hr : tools.RejectsLateFeatures) {cs es : List String}
    (ho : o.reader.allowedFeatures = .only cs es) {p : Payload} {x : Product}
    (h : run tools o .binaryToSource p = .ok x) :
    ∃ ws, Stages.decodeInput .binaryToSource p = .ok (.words ws : StageValue M) ∧
      DeclaresOnly cs es ws := by
  obtain ⟨v, ds, w, hv, hx⟩ := exec_of_run_eq_ok h
  have hshape := shape_of_decodeInput hv
  cases v with
  | words ws => exact ⟨ws, hv, declaresOnly_of_exec_chain hr ho hx⟩
  | text t => cases hshape
  | module m => cases hshape

theorem declaresOnly_of_assemblyToSource (hr : tools.RejectsLateFeatures) {cs es : List String}
    (ho : o.reader.allowedFeatures = .only cs es) {p : Payload} {x : Product}
    (h : run tools o .assemblyToSource p = .ok x) :
    ∃ t ws, Stages.decodeInput .assemblyToSource p = .ok (.text t : StageValue M) ∧
      Stages.assemble tools o.codec t = .ok ws ∧ DeclaresOnly cs es ws := by
  obtain ⟨v, ds, w, hv, hx⟩ := exec_of_run_eq_ok h
  have hshape := shape_of_decodeInput hv
  cases v with
  | words ws => cases hshape
  | module m => cases hshape
  | text t =>
    rw [chain_assemblyToSource_eq_cons] at hx
    obtain ⟨y, -, es', hrun, -, hrest, -⟩ := exec_cons_eq_ok hx
    obtain ⟨ws, hws, rfl⟩ := Reply.map_eq_ok.mp hrun
    exact ⟨t, ws, hv, hws, declaresOnly_of_exec_chain hr ho hrest⟩

/-- **The list of allowed features is exact and cannot be passed by.**  A module is accepted if and
only if all that its scan lists is allowed; else the first feature is named that is not; a longer
list accepts no less.  With a reader that refuses late declarations, a binary that is turned into
source, as it came or out of the assembler, declares only allowed features from its header to its
end. -/
theorem allowlist_exact (tools : Toolchain M) :
    (∀ (s : FeatureSet) (ws : List Word) (m : ModuleFeatures),
      s.check ws = .ok m ↔ ModuleFeatures.scan ws = .ok m ∧ s.Allows m) ∧
    (∀ (s : FeatureSet) (ws : List Word) (m : ModuleFeatures),
      ModuleFeatures.scan ws = .ok m → ¬ s.Allows m →
        ∃ f, s.check ws = .error f ∧ s.Refuses m f) ∧
    (∀ (s s' : FeatureSet) (ws : List Word) (m : ModuleFeatures),
      s.Enlarges s' → s.check ws = .ok m → s'.check ws = .ok m) ∧
    (tools.RejectsLateFeatures → ∀ (o : PipelineOptions) (cs es : List String) (p : Payload)
      (x : Product), o.reader.allowedFeatures = .only cs es →
        (run tools o .binaryToSource p = .ok x →
          ∃ ws, Stages.decodeInput .binaryToSource p = .ok (.words ws : StageValue M) ∧
            DeclaresOnly cs es ws) ∧
        (run tools o .assemblyToSource p = .ok x →
          ∃ t ws, Stages.decodeInput .assemblyToSource p = .ok (.text t : StageValue M) ∧
            Stages.assemble tools o.codec t = .ok ws ∧ DeclaresOnly cs es ws)) := by
  refine ⟨fun s ws m => FeatureSet.check_eq_ok_iff, fun s ws m => FeatureSet.exists_refuses,
    fun s s' ws m hs => FeatureSet.check_of_enlarges hs, ?_⟩
  intro hr o cs es p x ho
  exact ⟨declaresOnly_of_binaryToSource hr ho, declaresOnly_of_assemblyToSource hr ho⟩

/-- The tools of this library behind a look at the order of all instructions.  Their own reader does
not go by the lengths of instructions alone, so it does not see every late declaration. -/
def orderlyTools : Toolchain Ir.Module :=
  { Toolchain.standard with
    parseBinary := fun settings ws =>
      if FeaturesFirst ws then Toolchain.standard.parseBinary settings ws
      else .error ["a feature is declared too late"] }

theorem orderlyTools_rejectsLateFeatures : orderlyTools.RejectsLateFeatures := by
  intro settings ws m h
  by_contra hlate
  simp only [orderlyTools, if_neg hlate] at h
  cases h

/-- A module that asks for a capability and for an extension. -/
def multiviewModule : List Word :=
  [Words.magic, 0x00010000, 0, 1, 0, 0x00020011, 1, 0x0006000A, 1599492179, 1599227979, 1953265005,
    1701410409, 119, 0x0003000E, 0, 1]

def multiviewText : String :=
  "OpCapability Shader\nOpExtension \"SPV_KHR_multiview\"\nOpMemoryModel Logical GLSL450"

def allowing (cs es : List String) : PipelineOptions :=
  { reader := { allowedFeatures := .only cs es } }

/-- Both features are on the list, as a binary in the other byte order and as assembly; with a
shorter list the extension is refused. -/
theorem allowlist_exact_multiview :
    orderlyTools.RejectsLateFeatures ∧
    (∃ x ws, run orderlyTools (allowing ["Shader"] ["SPV_KHR_multiview"]) .binaryToSource
        (.words (multiviewModule.map Words.swap)) = .ok x ∧
      Stages.decodeInput .binaryToSource (.words (multiviewModule.map Words.swap))
        = .ok (.words ws : StageValue Ir.Module) ∧
      DeclaresOnly ["Shader"] ["SPV_KHR_multiview"] ws) ∧
    (∃ x t ws, run orderlyTools (allowing ["Shader"] ["SPV_KHR_multiview"]) .assemblyToSource
        (.text multiviewText) = .ok x ∧
      Stages.decodeInput .assemblyToSource (.text multiviewText)
        = .ok (.text t : StageValue Ir.Module) ∧
      Stages.assemble orderlyTools {} t = .ok ws ∧
      DeclaresOnly ["Shader"] ["SPV_KHR_multiview"] ws) ∧
    ∃ m f, ModuleFeatures.scan multiviewModule = .ok m ∧
      ¬ (FeatureSet.only ["Shader"] []).Allows m ∧
      (FeatureSet.only ["Shader"] []).check multiviewModule = .error f ∧
      (FeatureSet.only ["Shader"] []).Refuses m f := by
  obtain ⟨-, hrefuse, -, henforce⟩ := allowlist_exact orderlyTools
  have hor := henforce orderlyTools_rejectsLateFeatures
    (allowing ["Shader"] ["SPV_KHR_multiview"]) ["Shader"] ["SPV_KHR_multiview"]
  refine ⟨orderlyTools_rejectsLateFeatures, ?_, ?_, ?_⟩
  · obtain ⟨x, hx⟩ := Reply.exists_ok
      (r := run orderlyTools (allowing ["Shader"] ["SPV_KHR_multiview"]) .binaryToSource
        (.words (multiviewModule.map Words.swap))) (by decide +kernel)
    obtain ⟨ws, hd, hws⟩ := (hor _ x rfl).1 hx
    exact ⟨x, ws, hx, hd, hws⟩
  · obtain ⟨x, hx⟩ := Reply.exists_ok
      (r := run orderlyTools (allowing ["Shader"] ["SPV_KHR_multiview"]) .assemblyToSource
        (.text multiviewText)) (by decide +kernel)
    obtain ⟨t, ws, hd, hassemble, hws⟩ := (hor _ x rfl).2 hx
    exact ⟨x, t, ws, hx, hd, hassemble, hws⟩
  · have hscan : ModuleFeatures.scan multiviewModule
        = .ok ⟨1, 0, 0, 1, ["Shader"], ["SPV_KHR_multiview"]⟩ := by decide +kernel
    have hnot : ¬ (FeatureSet.only ["Shader"] []).Allows
        ⟨1, 0, 0, 1, ["Shader"], ["SPV_KHR_multiview"]⟩ := by
      rintro ⟨-, h⟩
      have hext := h "SPV_KHR_multiview" List.mem_cons_self
      cases hext
    obtain ⟨f, hf, hfirst⟩ := hrefuse _ multiviewModule _ hscan hnot
    exact ⟨_, f, hscan, hnot, hf, hfirst⟩

end Pipeline

end ShaderConvert
