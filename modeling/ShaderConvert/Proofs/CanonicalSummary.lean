import Mathlib.Data.Multiset.Basic
import Mathlib.Data.Prod.Lex
import Mathlib.Tactic
import ShaderConvert.Proofs.Sorting
import ShaderConvert.Summary

/-
Summaries are a canonical form of interfaces.

The entries of a summary are sorted by a comparison of field after field.  This is the lexicographic
order of their fields, in which no two different entries are equal; so a sorted list is determined by
what is in it and how often.

* `SpaceKind` — what a summary tells of a space, all but what may be done with storage;
* `EntryPointSummary.sortsBy`, `BindingSummary.sortsBy` — the two comparisons of a summary, as the order
  of a key;
* `ModuleSummary.ofInterface_canonical` — summaries are equal if and only if the interfaces have the
  same entry points and the same bindings, each as often; an entry point that is looked up is the
  least of its name.
-/
namespace ShaderConvert

/-! ### Kinds of spaces -/

/-- A space, whatever may be done with storage. -/
inductive SpaceKind where
  | function
  | privateSpace
  | workGroup
  | uniform
  | storage
  | handle
  | pushConstant
deriving DecidableEq

def SpaceKind.name : SpaceKind → String
  | function => "function"
  | privateSpace => "private"
  | workGroup => "workgroup"
  | uniform => "uniform"
  | storage => "storage"
  | handle => "handle"
  | pushConstant => "push_constant"

theorem SpaceKind.name_injective : Function.Injective name := by
  intro a b h
  cases a <;> cases b <;> first | rfl | exact absurd h (by decide)

namespace AddressSpace

def kind : AddressSpace → SpaceKind
  | function => .function
  | privateSpace => .privateSpace
  | workGroup => .workGroup
  | uniform => .uniform
  | storage _ => .storage
  | handle => .handle
  | pushConstant => .pushConstant

theorem summaryName_eq (s : AddressSpace) : s.summaryName = s.kind.name := by
  cases s <;> rfl

theorem kind_eq_kind_iff {s t : AddressSpace} :
    s.kind = t.kind ↔ s = t ∨ ∃ a b, s = storage a ∧ t = storage b := by
  cases s <;> cases t <;> simp [kind]

/-- **Names tell spaces apart**, up to what may be done with storage. -/
theorem summaryName_eq_iff {s t : AddressSpace} :
    s.summaryName = t.summaryName ↔ s = t ∨ ∃ a b, s = storage a ∧ t = storage b := by
  rw [summaryName_eq, summaryName_eq, SpaceKind.name_injective.eq_iff, kind_eq_kind_iff]

end AddressSpace

/-! ### The order of the entries -/

/-- A comparison of one field before the others. -/
theorem compare_field_iff {κ : Type} [LinearOrder κ] (a b : κ) (rest : Bool) :
    (if a ≠ b then decide (a < b) else rest) = true ↔ a < b ∨ a = b ∧ rest = true := by
  by_cases h : a = b
  · rw [if_neg (not_not.mpr h)]
    simp [h]
  · rw [if_pos h, decide_eq_true_eq]
    simp [h]

/-- The numbers of a size, in lexicographic order. -/
def sizeKey (w : ℕ × ℕ × ℕ) : ℕ ×ₗ ℕ ×ₗ ℕ := toLex (w.1, toLex w.2)

theorem sizeKey_injective : Function.Injective sizeKey := by
  intro v w h
  simpa [sizeKey, Prod.ext_iff] using h

theorem sizeLe_iff (v w : ℕ × ℕ × ℕ) : sizeLe v w = true ↔ sizeKey v ≤ sizeKey w := by
  rw [sizeLe, compare_field_iff, compare_field_iff, decide_eq_true_eq, sizeKey, sizeKey,
    Prod.Lex.toLex_le_toLex, Prod.Lex.toLex_le_toLex]

theorem ShaderStage.name_injective : Function.Injective name := by
  intro a b h
  cases a <;> cases b <;> first | rfl | exact absurd h (by decide)

namespace EntryPointSummary

/-- Stage, name and size, in lexicographic order. -/
def key (e : EntryPointSummary) : String ×ₗ String ×ₗ ℕ ×ₗ ℕ ×ₗ ℕ :=
  toLex (e.stage, toLex (e.name, sizeKey e.workgroupSize))

/-- Stage and size, in lexicographic order. -/
def rank (e : EntryPointSummary) : String ×ₗ ℕ ×ₗ ℕ ×ₗ ℕ :=
  toLex (e.stage, sizeKey e.workgroupSize)

theorem sortsBy : SortsBy le key where
  le_iff a b := by
    rw [le, compare_field_iff, compare_field_iff, sizeLe_iff, key, key, Prod.Lex.toLex_le_toLex,
      Prod.Lex.toLex_le_toLex]
  injective := by
    rintro ⟨s, n, v⟩ ⟨t, m, w⟩ h
    simp only [key, EmbeddingLike.apply_eq_iff_eq, Prod.mk.injEq] at h
    obtain ⟨rfl, rfl, hsize⟩ := h
    rw [sizeKey_injective hsize]

/-- Among entry points of one name the name does not count. -/
theorem key_le_key_iff {a b : EntryPointSummary} (h : a.name = b.name) :
    a.key ≤ b.key ↔ a.rank ≤ b.rank := by
  simp [key, rank, Prod.Lex.toLex_le_toLex, h]

/-- What a summary says of an entry point. -/
def ofEntryPoint (e : ShaderStage × String × (ℕ × ℕ × ℕ)) : EntryPointSummary :=
  ⟨e.1.name, e.2.1, e.2.2⟩

theorem ofEntryPoint_injective : Function.Injective ofEntryPoint := by
  rintro ⟨s, n, v⟩ ⟨t, m, w⟩ h
  obtain ⟨hname, rfl, rfl⟩ := EntryPointSummary.mk.inj h
  have hstage : s = t := ShaderStage.name_injective hname
  rw [hstage]

end EntryPointSummary

namespace BindingSummary

/-- Group, number and space, in lexicographic order. -/
def key (b : BindingSummary) : ℕ ×ₗ ℕ ×ₗ String := toLex (b.group, toLex (b.binding, b.space))

theorem sortsBy : SortsBy le key where
  le_iff a b := by
    rw [le, compare_field_iff, compare_field_iff, decide_eq_true_eq, key, key,
      Prod.Lex.toLex_le_toLex, Prod.Lex.toLex_le_toLex]
  injective := by
    rintro ⟨g, n, s⟩ ⟨g', n', s'⟩ h
    simp only [key, EmbeddingLike.apply_eq_iff_eq, Prod.mk.injEq] at h
    obtain ⟨rfl, rfl, rfl⟩ := h
    rfl

/-- What a summary says of a bound variable. -/
def ofBound (b : ℕ × ℕ × SpaceKind) : BindingSummary := ⟨b.1, b.2.1, b.2.2.name⟩

theorem ofBound_injective : Function.Injective ofBound := by
  rintro ⟨g, n, s⟩ ⟨g', n', s'⟩ h
  obtain ⟨rfl, rfl, hname⟩ := BindingSummary.mk.inj h
  have hkind : s = s' := SpaceKind.name_injective hname
  rw [hkind]

end BindingSummary

/-! ### Summaries -/

/-- The group, number and kind of space of each global variable that is bound. -/
def ModuleInterface.bound (m : ModuleInterface) : List (ℕ × ℕ × SpaceKind) :=
  m.globals.filterMap fun g => g.2.map fun b => (b.1, b.2, g.1.kind)

/-- Variables without a binding do not count. -/
theorem ModuleInterface.bound_eq_filter (m : ModuleInterface) :
    m.bound = (m.globals.filter (·.2.isSome)).filterMap
      fun g => g.2.map fun b => (b.1, b.2, g.1.kind) := by
  rw [List.filterMap_filter, bound]
  refine List.filterMap_congr fun g _ => ?_
  cases g.2 <;> rfl

namespace ModuleSummary

theorem ofInterface_entryPoints (m : ModuleInterface) :
    (ofInterface m).entryPoints =
      (m.entryPoints.map EntryPointSummary.ofEntryPoint).mergeSort EntryPointSummary.le := rfl

theorem ofInterface_bindings (m : ModuleInterface) :
    (ofInterface m).bindings = (m.bound.map BindingSummary.ofBound).mergeSort BindingSummary.le := by
  rw [ModuleInterface.bound, List.map_filterMap]
  simp only [ofInterface, AddressSpace.summaryName_eq, Option.map_map]
  rfl

/-- **Equal summaries are equal interfaces**, up to the order of declarations. -/
theorem ofInterface_eq_iff (m m' : ModuleInterface) :
    ofInterface m = ofInterface m' ↔
      m.entryPoints.Perm m'.entryPoints ∧ m.bound.Perm m'.bound := by
  have hfields : ∀ s t : ModuleSummary,
      s = t ↔ s.entryPoints = t.entryPoints ∧ s.bindings = t.bindings := by
    rintro ⟨e, b⟩ ⟨e', b'⟩
    rw [ModuleSummary.mk.injEq]
  rw [hfields, ofInterface_entryPoints, ofInterface_entryPoints, ofInterface_bindings,
    ofInterface_bindings, EntryPointSummary.sortsBy.mergeSort_eq_iff,
    BindingSummary.sortsBy.mergeSort_eq_iff,
    List.map_perm_map_iff EntryPointSummary.ofEntryPoint_injective,
    List.map_perm_map_iff BindingSummary.ofBound_injective]

/-- **The entry point that is looked up is the least of its name.** -/
theorem entryPoint?_eq_some_iff (m : ModuleInterface) (name : String) (e : EntryPointSummary) :
    (ofInterface m).entryPoint? name = some e ↔
      e.name = name ∧ (∃ x ∈ m.entryPoints, .ofEntryPoint x = e) ∧
        ∀ x ∈ m.entryPoints, x.2.1 = name → e.rank ≤ (EntryPointSummary.ofEntryPoint x).rank := by
  rw [entryPoint?, ofInterface_entryPoints, EntryPointSummary.sortsBy.find?_mergeSort_eq_some_iff,
    List.mem_map, List.forall_mem_map, decide_eq_true_eq, and_left_comm]
  refine and_congr_right fun hname => and_congr_right fun _ => forall₂_congr fun x _ => ?_
  rw [decide_eq_true_eq]
  refine forall_congr' fun hx => ?_
  exact EntryPointSummary.key_le_key_iff (hname.trans hx.symm)

/-- **A summary is a canonical form of an interface.**  Two summaries are equal if and only if the
interfaces have the same entry points and the same bindings, each as often; the names of two spaces are
equal if these are the same or both storage.  So neither the order of declarations counts nor a variable
without a binding.  Both lists are sorted by their fields one after the other and have what was
declared, nothing lost and nothing twice.  A name finds an entry point if there is one with exactly this
name, and then the least of them by stage and size. -/
theorem ofInterface_canonical :
    (∀ m m' : ModuleInterface, ofInterface m = ofInterface m' ↔
      (m.entryPoints : Multiset (ShaderStage × String × (ℕ × ℕ × ℕ))) = m'.entryPoints ∧
        (m.bound : Multiset (ℕ × ℕ × SpaceKind)) = m'.bound) ∧
    (∀ s t : AddressSpace, s.summaryName = t.summaryName ↔
      s = t ∨ ∃ a b, s = .storage a ∧ t = .storage b) ∧
    (∀ m m' : ModuleInterface, m.entryPoints.Perm m'.entryPoints →
      (m.globals.filter (·.2.isSome)).Perm (m'.globals.filter (·.2.isSome)) →
        ofInterface m = ofInterface m') ∧
    (∀ m, (ofInterface m).entryPoints.Pairwise (fun a b => a.key ≤ b.key) ∧
      (ofInterface m).bindings.Pairwise (fun a b => a.key ≤ b.key) ∧
      (ofInterface m).entryPoints.Perm (m.entryPoints.map .ofEntryPoint) ∧
      (ofInterface m).bindings.Perm (m.bound.map .ofBound)) ∧
    (∀ m name, ((ofInterface m).entryPoint? name).isSome = true ↔
      ∃ x ∈ m.entryPoints, x.2.1 = name) ∧
    (∀ m name e, (ofInterface m).entryPoint? name = some e ↔
      e.name = name ∧ (∃ x ∈ m.entryPoints, .ofEntryPoint x = e) ∧
        ∀ x ∈ m.entryPoints, x.2.1 = name → e.rank ≤ (EntryPointSummary.ofEntryPoint x).rank) := by
  refine ⟨?_, fun s t => AddressSpace.summaryName_eq_iff, ?_, ?_, ?_, entryPoint?_eq_some_iff⟩
  · intro m m'
    rw [ofInterface_eq_iff, Multiset.coe_eq_coe, Multiset.coe_eq_coe]
  · intro m m' hentries hglobals
    rw [ofInterface_eq_iff, m.bound_eq_filter, m'.bound_eq_filter]
    exact ⟨hentries, hglobals.filterMap _⟩
  · intro m
    rw [ofInterface_entryPoints, ofInterface_bindings]
    exact ⟨EntryPointSummary.sortsBy.pairwise_mergeSort _, BindingSummary.sortsBy.pairwise_mergeSort _,
      List.mergeSort_perm _ _, List.mergeSort_perm _ _⟩
  · intro m name
    rw [entryPoint?, ofInterface_entryPoints, List.find?_isSome]
    simp [EntryPointSummary.ofEntryPoint]

/-- Two entry points of one name, declared in either order; what may be done with storage does not
count, but storage is not the uniform space. -/
theorem ofInterface_canonical_twoMains :
    ofInterface ⟨[(.vertex, "main", 0, 0, 0), (.compute, "main", 1, 1, 1)],
        [(.privateSpace, none), (.uniform, some (0, 1))]⟩ =
      ofInterface ⟨[(.compute, "main", 1, 1, 1), (.vertex, "main", 0, 0, 0)],
        [(.uniform, some (0, 1))]⟩ ∧
    (ofInterface ⟨[(.vertex, "main", 0, 0, 0), (.compute, "main", 1, 1, 1)], []⟩).entryPoint? "main"
      = some ⟨"compute", "main", 1, 1, 1⟩ ∧
    ofInterface ⟨[], [(.storage { load := true }, some (0, 1))]⟩ =
      ofInterface ⟨[], [(.storage { store := true }, some (0, 1))]⟩ ∧
    ofInterface ⟨[], [(.storage {}, some (0, 1))]⟩ ≠ ofInterface ⟨[], [(.uniform, some (0, 1))]⟩ := by
  obtain ⟨heq, -, hperm, -, -, hfind⟩ := ofInterface_canonical
  refine ⟨hperm _ _ (.swap _ _ _) (by decide), (hfind _ _ _).mpr ⟨rfl, ?_, ?_⟩,
    (heq _ _).mpr ⟨rfl, rfl⟩, fun h => absurd ((heq _ _).mp h).2 (by decide)⟩
  · exact ⟨(.compute, "main", 1, 1, 1), by decide, rfl⟩
  · intro x hx _
    rcases List.mem_pair.mp hx with rfl | rfl
    · exact Prod.Lex.toLex_le_toLex.mpr (.inl (by decide))
    · exact le_rfl

end ModuleSummary

end ShaderConvert
