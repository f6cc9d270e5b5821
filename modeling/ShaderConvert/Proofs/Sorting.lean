import Mathlib.Data.List.Sort
import Mathlib.Data.String.Basic
import Mathlib.Tactic
import ShaderConvert.Features

/-
Sorted lists as canonical forms.

* `SortsBy` — a comparison that is the order of a key.  A list that is sorted by it is determined by what
  is in it and how often (`SortsBy.mergeSort_eq_iff`).
* `IsSetOf` — a list has just some names, in ascending order and each once.  There is one such list, and
  it depends on the members only (`IsSetOf.unique`); `sortedSet` computes it (`sortedSet_eq_iff`).
-/
namespace ShaderConvert

/-! ### Sorting by a key -/

/-- The comparison is the order of the keys, and different elements have different keys. -/
structure SortsBy {α κ : Type} [LinearOrder κ] (le : α → α → Bool) (key : α → κ) : Prop where
  le_iff : ∀ a b, le a b = true ↔ key a ≤ key b
  injective : Function.Injective key

namespace SortsBy

variable {α κ : Type} [LinearOrder κ] {le : α → α → Bool} {key : α → κ} (h : SortsBy le key)

include h

theorem pairwise_mergeSort (l : List α) : (l.mergeSort le).Pairwise fun a b => key a ≤ key b := by
  have htrans : ∀ a b c, le a b = true → le b c = true → le a c = true := by
    intro a b c hab hbc
    rw [h.le_iff] at *
    exact hab.trans hbc
  have htotal : ∀ a b, (le a b || le b a) = true := by
    intro a b
    rw [Bool.or_eq_true, h.le_iff, h.le_iff]
    exact le_total _ _
  exact (List.pairwise_mergeSort htrans htotal l).imp fun hab => (h.le_iff _ _).mp hab

/-- **A sorted list is determined by what is in it**, and how often. -/
theorem mergeSort_eq_iff (l l' : List α) : l.mergeSort le = l'.mergeSort le ↔ l.Perm l' := by
  have hl := List.mergeSort_perm l le
  have hl' := List.mergeSort_perm l' le
  constructor
  · intro heq
    rw [heq] at hl
    exact hl.symm.trans hl'
  · intro hperm
    refine List.Perm.eq_of_pairwise ?_ (h.pairwise_mergeSort l) (h.pairwise_mergeSort l')
      (hl.trans (hperm.trans hl'.symm))
    exact fun a b _ _ hab hba => h.injective (le_antisymm hab hba)

/-- The first element with a property is the least with it. -/
theorem find?_mergeSort_eq_some_iff (l : List α) (p : α → Bool) (a : α) :
    (l.mergeSort le).find? p = some a ↔
      a ∈ l ∧ p a = true ∧ ∀ b ∈ l, p b = true → key a ≤ key b := by
  have hleast : ∀ {a}, (l.mergeSort le).find? p = some a →
      ∀ b ∈ l, p b = true → key a ≤ key b := by
    intro a hfind b hb hpb
    obtain ⟨-, front, rest, hsplit, hfront⟩ := List.find?_eq_some_iff_append.mp hfind
    have hsorted := h.pairwise_mergeSort l
    have hmem : b ∈ l.mergeSort le := List.mem_mergeSort.mpr hb
    rw [hsplit] at hsorted hmem
    rcases List.mem_append.mp hmem with hbf | hbr
    · -- nothing in front of the first has the property
      have hnot := hfront b hbf
      rw [hpb] at hnot
      cases hnot
    · rcases List.mem_cons.mp hbr with rfl | hbr
      · exact le_rfl
      · exact List.rel_of_pairwise_cons (List.pairwise_append.mp hsorted).2.1 hbr
  constructor
  · intro hfind
    exact ⟨List.mem_mergeSort.mp (List.mem_of_find?_eq_some hfind), List.find?_some hfind,
      hleast hfind⟩
  · rintro ⟨ha, hpa, hle⟩
    have hsome : ((l.mergeSort le).find? p).isSome = true :=
      List.find?_isSome.mpr ⟨a, List.mem_mergeSort.mpr ha, hpa⟩
    obtain ⟨c, hc⟩ := Option.isSome_iff_exists.mp hsome
    have hca : key c = key a := by
      refine le_antisymm (hleast hc a ha hpa) (hle c ?_ (List.find?_some hc))
      exact List.mem_mergeSort.mp (List.mem_of_find?_eq_some hc)
    rw [hc, h.injective hca]

end SortsBy

/-! ### Sets of names -/

/-- The set of some names: just them, in ascending order and each once. -/
structure IsSetOf (set names : List String) : Prop where
  ascending : set.Pairwise (· < ·)
  mem_iff : ∀ n, n ∈ set ↔ n ∈ names

/-- **A set of names depends on its members only.** -/
theorem IsSetOf.unique {set set' names names' : List String} (h : IsSetOf set names)
    (h' : IsSetOf set' names') (hmem : ∀ n, n ∈ names ↔ n ∈ names') : set = set' := by
  have hperm : set.Perm set' := by
    rw [List.perm_ext_iff_of_nodup (h.ascending.imp ne_of_lt) (h'.ascending.imp ne_of_lt)]
    intro n
    rw [h.mem_iff, h'.mem_iff]
    exact hmem n
  exact hperm.eq_of_pairwise' h.ascending h'.ascending

theorem isSetOf_self {set : List String} (h : set.Pairwise (· < ·)) : IsSetOf set set :=
  ⟨h, fun _ => .rfl⟩

/-- Of a list in order, the members without repetition ascend. -/
theorem pairwise_eraseDups {l : List String} (h : l.Pairwise (· ≤ ·)) :
    l.eraseDups.Pairwise (· < ·) := by
  match l with
  | [] => exact .nil
  | a :: l =>
    obtain ⟨ha, hl⟩ := List.pairwise_cons.mp h
    rw [List.eraseDups_cons, List.pairwise_cons]
    refine ⟨?_, pairwise_eraseDups (hl.filter _)⟩
    intro b hb
    rw [List.mem_eraseDups, List.mem_filter] at hb
    have hne : b ≠ a := by simpa using hb.2
    exact lt_of_le_of_ne (ha b hb.1) hne.symm
termination_by l.length
decreasing_by exact Nat.lt_succ_of_le (List.length_filter_le _ _)

theorem sortsBy_bytesLe : SortsBy bytesLe id where
  le_iff a b := by rw [bytesLe, decide_eq_true_eq, id, id]
  injective := Function.injective_id

theorem isSetOf_sortedSet (names : List String) : IsSetOf (sortedSet names) names where
  ascending := pairwise_eraseDups (sortsBy_bytesLe.pairwise_mergeSort names)
  mem_iff n := by rw [sortedSet, List.mem_eraseDups, List.mem_mergeSort]

theorem sortedSet_eq_iff {set names : List String} :
    sortedSet names = set ↔ IsSetOf set names := by
  have hsorted := isSetOf_sortedSet names
  constructor
  · rintro rfl
    exact hsorted
  · exact fun h => hsorted.unique h fun _ => .rfl

/-- Two lists of names have the same set if and only if they have the same members. -/
theorem sortedSet_eq_sortedSet_iff {names names' : List String} :
    sortedSet names = sortedSet names' ↔ ∀ n, n ∈ names ↔ n ∈ names' := by
  have h := isSetOf_sortedSet names
  have h' := isSetOf_sortedSet names'
  refine ⟨fun heq n => ?_, h.unique h'⟩
  rw [← h.mem_iff, ← h'.mem_iff, heq]

end ShaderConvert
