import Mathlib.Tactic
import ShaderConvert.Diagnostics.Json
import ShaderConvert.Proofs.Json.RoundTrip

/-
Diagnostics survive their JSON form.

A place is four numbers of 32 bits (`Location.reads`), a record has a place or `null`
(`Diagnostic.reads`), and diagnostics are a list of records, in their order (`Diagnostics.reads`).
What is counted, found or rendered is a function of the records, so it survives as well.

The main statement is `json_survives`.
-/
namespace ShaderConvert

open Json Json.Reader

/-! ### Values that may be absent -/

namespace Json.Reader

variable {α : Type}

theorem reads_absent (r : Reader α) : Reads (optional r) "null" none :=
  ⟨⟨'n', _, rfl, by decide, by decide⟩, fun rest _ => rfl⟩

/-- A value that is there is read as such, if its text cannot be taken for `null`. -/
theorem Reads.present {r : Reader α} {text : String} {a : α} (h : Reads r text a)
    (hn : text.toList.head? ≠ some 'n') : Reads (optional r) text (some a) := by
  refine ⟨h.opens, fun rest hrest => ?_⟩
  obtain ⟨c, l, hcl, hs, -⟩ := h.opens
  have hpeek : peekPastSpace (text.toList ++ rest) = .ok (some c, text.toList ++ rest) := by
    rw [hcl, List.cons_append, peekPastSpace_cons hs]
  have hc : some c ≠ some 'n' := by rwa [hcl, List.head?_cons] at hn
  rw [optional, bind_of_ok hpeek]
  -- by `hc` the value is not `null`
  simp only
  rw [map_eq_pure_bind, bind_of_ok (h.reads rest hrest)]
  rfl

end Json.Reader

/-! ### Places -/

/-- **Every number of 32 bits is read back.** -/
theorem Location.reads_number (n : UInt32) : Reads Location.number (toString n) n := by
  have h64 : n.toNat < limit64 := Nat.lt_trans n.toNat_lt (by decide)
  have h : Reads (natural (twoTo 32) "u32") (toString n.toNat) n.toNat :=
    reads_natural n.toNat_lt h64 "u32"
  refine h.bind ?_
  simp only [Nat.toUInt32_eq, UInt32.ofNat_toNat]

theorem Location.reads (l : Location) : Reads Location.reader l.toJson l := by
  refine reads_record ?_ rfl (by decide) _ _
  exact .cons rfl ((reads_number _).bind rfl) <| .cons rfl ((reads_number _).bind rfl) <|
    .cons rfl ((reads_number _).bind rfl) <| .cons rfl ((reads_number _).bind rfl) <| .nil _

/-! ### Records -/

theorem Severity.reads (s : Severity) : Reads Severity.reader s.toJson s := by
  cases s <;> exact reads_bare rfl rfl

/-- The text of a place that may be absent. -/
theorem Location.reads_optional (l : Option Location) :
    Reads (optional Location.reader)
      (match l with
        | some l => l.toJson
        | none => "null") l := by
  cases l with
  | none => exact reads_absent _
  | some l =>
    refine (Location.reads l).present ?_
    have hopen := toList_writeObject
      [("line", toString l.line), ("column", toString l.column), ("offset", toString l.offset),
        ("length", toString l.length)] []
    rw [List.append_nil] at hopen
    rw [Location.toJson, hopen, List.head?_cons]
    decide

theorem Diagnostic.reads (d : Diagnostic) : Reads Diagnostic.reader d.toJson d := by
  refine reads_record ?_ rfl (by decide) _ _
  exact .cons rfl ((Severity.reads _).bind rfl) <| .cons rfl ((reads_string _).bind rfl) <|
    .cons rfl ((Location.reads_optional _).bind rfl) <| .nil _

namespace Diagnostics

/-- **Records are read back in their order.** -/
theorem reads (ds : Diagnostics) : Reads Diagnostics.reader ds.toJson ds := by
  refine reads_record ?_ rfl (by decide) _ _
  exact .cons rfl ((reads_list fun d _ => Diagnostic.reads d).bind rfl) <| .nil _

/-- **Diagnostics survive their JSON form**, whatever their severities, messages and places are: the
same records are read back in the same order, hence with the same counts, the same first error and
the same renderings. -/
theorem json_survives (ds : Diagnostics) :
    ∃ ds', ofJson ds.toJson = .ok ds' ∧ ds'.records = ds.records ∧
      ds'.size = ds.size ∧ ds'.errorCount = ds.errorCount ∧ ds'.warningCount = ds.warningCount ∧
      ds'.firstError? = ds.firstError? ∧ ds'.render = ds.render ∧
      ∀ source, ds'.renderWithSource source = ds.renderWithSource source := by
  refine ⟨ds, ?_, rfl, rfl, rfl, rfl, rfl, rfl, fun _ => rfl⟩
  rw [ofJson, (reads ds).run_eq]
  rfl

end Diagnostics

end ShaderConvert
