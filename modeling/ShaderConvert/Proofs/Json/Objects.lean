import Mathlib.Tactic
import ShaderConvert.Proofs.Json.Reading

/-
Records are read from the members that are given.

A `Schema` says what the fields of a record are: the name of each, the values that give it, and what
it replaces.  Members give a list of fields (`Schema.Lists`) if those of the fields' names have values
of theirs; all other members may have any value.  A record that reads its members as the schema says
(`Schema.Fits`) is then

* the start with the given fields replaced, if no field is given twice (`takes_record`);
* refused, if one is, be it inside the value of another (`refuses_record`).

Fields of different names replace different things, so their order does not matter
(`Schema.Commutes.of_rearranged`).
-/
namespace ShaderConvert.Json

/-- The fields of a record of type `σ`. -/
structure Schema (σ φ : Type) where
  name : φ → String
  /-- The values that give a field. -/
  Gives : φ → Value → Prop
  set : σ → φ → σ
  /-- Nothing is given twice inside the value of the field. -/
  Once : φ → Prop
  /-- The field is the same, but what its value holds may be given in another order. -/
  Alike : φ → φ → Prop

namespace Schema

variable {σ φ : Type} (S : Schema σ φ)

/-- Members give fields in their order; those of other names give nothing, whatever they hold.  A name
is compared with those of the fields, so it has to be a text, while a string that is passed over need
not be one. -/
inductive Lists : List φ → List (Option String × Value) → Prop where
  | nil : Lists [] []
  | field {f : φ} {v : Value} {fs : List φ} {ms : List (Option String × Value)}
      (hv : S.Gives f v) (h : Lists fs ms) : Lists (f :: fs) ((some (S.name f), v) :: ms)
  | other {n : String} {fs : List φ} {ms : List (Option String × Value)} (hn : ∀ f, S.name f ≠ n)
      (v : Value) (h : Lists fs ms) : Lists fs ((some n, v) :: ms)

/-- The value is an object whose members give the fields. -/
def GivesAll (fs : List φ) (v : Value) : Prop := ∃ ms, v = .object ms ∧ S.Lists fs ms

/-- No field is given twice. -/
def Distinct (fs : List φ) : Prop := (fs.map S.name).Nodup ∧ ∀ f ∈ fs, S.Once f

/-- No field is given twice, or once more than before. -/
def Fresh (seen : List String) : List φ → Prop
  | [] => True
  | f :: fs => S.name f ∉ seen ∧ S.Once f ∧ Fresh (S.name f :: seen) fs

theorem fresh_iff {seen : List String} {fs : List φ} :
    S.Fresh seen fs ↔ S.Distinct fs ∧ ∀ f ∈ fs, S.name f ∉ seen := by
  induction fs generalizing seen with
  | nil => simp [Fresh, Distinct]
  | cons f fs ih =>
    rw [Fresh, ih, Distinct, Distinct, List.map_cons, List.nodup_cons]
    constructor
    · rintro ⟨hf, ho, ⟨hnodup, honce⟩, hfs⟩
      have hnew : S.name f ∉ fs.map S.name := by
        intro hmem
        obtain ⟨g, hg, hname⟩ := List.mem_map.mp hmem
        exact hfs g hg (List.mem_cons.mpr (.inl hname))
      refine ⟨⟨⟨hnew, hnodup⟩, List.forall_mem_cons.mpr ⟨ho, honce⟩⟩, List.forall_mem_cons.mpr ⟨hf, ?_⟩⟩
      exact fun g hg hmem => hfs g hg (List.mem_cons_of_mem _ hmem)
    · rintro ⟨⟨⟨hnew, hnodup⟩, honce⟩, hseen⟩
      obtain ⟨ho, honce⟩ := List.forall_mem_cons.mp honce
      obtain ⟨hf, hfs⟩ := List.forall_mem_cons.mp hseen
      refine ⟨hf, ho, ⟨hnodup, honce⟩, fun g hg hmem => ?_⟩
      rcases List.mem_cons.mp hmem with hname | hmem
      · exact hnew (hname ▸ List.mem_map_of_mem hg)
      · exact hfs g hg hmem

theorem fresh_nil_iff {fs : List φ} : S.Fresh [] fs ↔ S.Distinct fs := by
  simp [fresh_iff]

/-- The members of a record read the fields of a schema. -/
structure Fits (ms : List (Reader.Member σ)) : Prop where
  takes : ∀ f, ∃ m, ms.find? (·.name = S.name f) = some m ∧ ∀ v, S.Gives f v → ∀ s,
    (S.Once f → Reader.Takes (m.read s) v (S.set s f)) ∧ (¬ S.Once f → Reader.Refuses (m.read s) v)
  known : ∀ m ∈ ms, ∃ f, S.name f = m.name
  optional : ∀ m ∈ ms, m.required = false

variable {S} in
theorem Fits.find?_eq_none {ms : List (Reader.Member σ)} (h : S.Fits ms) {n : String}
    (hn : ∀ f, S.name f ≠ n) : ms.find? (·.name = n) = none := by
  rw [List.find?_eq_none]
  intro m hm hname
  obtain ⟨f, hf⟩ := h.known m hm
  exact hn f (hf.trans (of_decide_eq_true hname))

/-- The fields of a record none of whose values is an object. -/
def flat (name : φ → String) (Gives : φ → Value → Prop) (set : σ → φ → σ) : Schema σ φ where
  name := name
  Gives := Gives
  set := set
  Once _ := True
  Alike f g := f = g

theorem fits_flat {name : φ → String} {Gives : φ → Value → Prop} {set : σ → φ → σ}
    {ms : List (Reader.Member σ)}
    (takes : ∀ f, ∃ m, ms.find? (·.name = name f) = some m ∧
      ∀ v, Gives f v → ∀ s, Reader.Takes (m.read s) v (set s f))
    (known : ∀ m ∈ ms, ∃ f, name f = m.name) (optional : ∀ m ∈ ms, m.required = false) :
    (flat name Gives set).Fits ms where
  takes f := by
    obtain ⟨m, hm, hread⟩ := takes f
    exact ⟨m, hm, fun v hv s => ⟨fun _ => hread v hv s, fun ho => absurd trivial ho⟩⟩
  known := known
  optional := optional

/-- The same fields in another order, also inside the value of each. -/
def Rearranged (fs fs' : List φ) : Prop := ∃ gs, List.Forall₂ S.Alike fs gs ∧ gs.Perm fs'

/-- Fields of different names replace different things. -/
structure Commutes : Prop where
  comm : ∀ f g, S.name f ≠ S.name g → ∀ s, S.set (S.set s f) g = S.set (S.set s g) f
  alike : ∀ f g, S.Alike f g → S.Once f →
    S.name g = S.name f ∧ S.Once g ∧ ∀ s, S.set s g = S.set s f

theorem commutes_flat {name : φ → String} {Gives : φ → Value → Prop} {set : σ → φ → σ}
    (comm : ∀ f g, name f ≠ name g → ∀ s, set (set s f) g = set (set s g) f) :
    (flat name Gives set).Commutes where
  comm := comm
  alike := by
    rintro f g rfl ho
    exact ⟨rfl, ho, fun s => rfl⟩

variable {S}

theorem Commutes.of_forall₂ (h : S.Commutes) {fs gs : List φ} (ha : List.Forall₂ S.Alike fs gs)
    (ho : ∀ f ∈ fs, S.Once f) :
    gs.map S.name = fs.map S.name ∧ (∀ g ∈ gs, S.Once g) ∧
      ∀ s, gs.foldl S.set s = fs.foldl S.set s := by
  induction ha with
  | nil => exact ⟨rfl, fun g hg => (by cases hg), fun s => rfl⟩
  | @cons f g fs gs hfg ha ih =>
    obtain ⟨hof, hofs⟩ := List.forall_mem_cons.mp ho
    obtain ⟨hname, hog, hset⟩ := h.alike f g hfg hof
    obtain ⟨hnames, hogs, hsets⟩ := ih hofs
    refine ⟨by rw [List.map_cons, List.map_cons, hname, hnames],
      List.forall_mem_cons.mpr ⟨hog, hogs⟩, fun s => ?_⟩
    rw [List.foldl_cons, List.foldl_cons, hset, hsets]

/-- **The order of different fields does not matter.** -/
theorem Commutes.of_rearranged (h : S.Commutes) {fs fs' : List φ} (hr : S.Rearranged fs fs')
    (hd : S.Distinct fs) : S.Distinct fs' ∧ ∀ s, fs'.foldl S.set s = fs.foldl S.set s := by
  obtain ⟨gs, ha, hperm⟩ := hr
  obtain ⟨hnames, hogs, hsets⟩ := h.of_forall₂ ha hd.2
  have hnodup : (gs.map S.name).Nodup := hnames ▸ hd.1
  refine ⟨⟨(hperm.map S.name).nodup_iff.mp hnodup, fun f hf => hogs f (hperm.mem_iff.mpr hf)⟩, ?_⟩
  intro s
  rw [← hsets]
  refine (hperm.foldl_eq' (fun f hf g hg t => ?_) s).symm
  by_cases hfg : S.name f = S.name g
  · rw [List.inj_on_of_nodup_map hnodup hf hg hfg]
  · exact h.comm f g hfg t

end Schema

namespace Reader

variable {σ φ : Type} {S : Schema σ φ} {ms : List (Member σ)}

section Members

variable {first : Bool} {cs a rest : List Char}

theorem nextMember_endObject (h : Blanks cs ('\x7d' :: rest)) (first : Bool) :
    nextMember first cs = .ok (false, '\x7d' :: rest) := by
  rw [nextMember, bind_of_ok (peekPastSpace_blanks h (by decide))]
  rfl

theorem nextMember_of_separator (hs : Separator first cs a) {l : List Char}
    (ha : Blanks a ('"' :: l)) : nextMember first cs = .ok (true, '"' :: l) := by
  cases hs with
  | first _ =>
    rw [nextMember, bind_of_ok (peekPastSpace_blanks ha (by decide))]
    rfl
  | comma h =>
    rw [nextMember, bind_of_ok (peekPastSpace_blanks h (by decide))]
    simp only [Char.reduceEq, if_false, Bool.false_eq_true, if_true]
    rw [bind_of_ok (drop_cons _ _), bind_of_ok (peekPastSpace_blanks ha (by decide))]
    rfl

/-- One member whose value is passed over, and then the others. -/
theorem members_of_other {n : String} (hn : ms.find? (·.name = n) = none) {v : Value}
    {b c d : List Char} (hcs : Separator first cs a) (hk : Key (some n) a b) (hb : Blanks b c)
    (hv : Spells (.value v) c d) (hd : Delimits d) (fuel : ℕ) (seen : List String) (s : σ) :
    members ms (fuel + 1) first seen s cs = members ms fuel false seen s d := by
  obtain ⟨ha, hq, hcolon⟩ := hk
  rw [members, bind_of_ok (nextMember_of_separator hcs ha)]
  simp only [if_true]
  rw [bind_of_ok (drop_cons _ _), bind_of_ok (stringBody_of_quoted hq)]
  simp only [hn]
  rw [bind_of_ok (colon_of_blanks hcolon), bind_of_ok (skip_of_spells hb hv hd)]

/-- One member that is known. -/
theorem members_of_known {n : String} {m : Member σ} (hm : ms.find? (·.name = n) = some m)
    {b : List Char} (hcs : Separator first cs a) (hk : Key (some n) a b) (fuel : ℕ)
    (seen : List String) (s : σ) :
    (n ∈ seen → ∃ e, members ms (fuel + 1) first seen s cs = .error e) ∧
    (n ∉ seen → members ms (fuel + 1) first seen s cs
      = (m.read s >>= members ms fuel false (n :: seen)) b) := by
  obtain ⟨ha, hq, hcolon⟩ := hk
  rw [members, bind_of_ok (nextMember_of_separator hcs ha)]
  simp only [if_true]
  rw [bind_of_ok (drop_cons _ _), bind_of_ok (stringBody_of_quoted hq)]
  simp only [hm]
  refine ⟨fun hn => ?_, fun hn => ?_⟩
  · rw [if_pos hn]
    exact ⟨_, rfl⟩
  · rw [if_neg hn, bind_of_ok (colon_of_blanks hcolon)]

/-- **The members of an object are read one after another.** -/
theorem members_of_spells (hS : S.Fits ms) {fs : List φ} {vs : List (Option String × Value)}
    (hl : S.Lists fs vs) (h : Spells (.members first vs) cs rest) {fuel : ℕ}
    (hfuel : cs.length < fuel) (seen : List String) (s : σ) :
    (S.Fresh seen fs →
      ∃ seen', members ms fuel first seen s cs = .ok ((fs.foldl S.set s, seen'), '\x7d' :: rest)) ∧
    (¬ S.Fresh seen fs → ∃ e, members ms fuel first seen s cs = .error e) := by
  obtain ⟨fuel, rfl⟩ := Nat.exists_eq_succ_of_ne_zero (Nat.ne_zero_of_lt hfuel)
  induction hl generalizing first cs fuel seen s with
  | nil =>
    cases h with
    | endObject h =>
      refine ⟨fun _ => ⟨seen, ?_⟩, fun hn => absurd trivial hn⟩
      rw [members, bind_of_ok (nextMember_endObject h first)]
      rfl
  | other hn v hl ih =>
    cases h with
    | member hcs hk hb hv h =>
      have hlt := (member_length_lt hcs hk hb hv).trans_le (Nat.le_of_lt_succ hfuel)
      obtain ⟨fuel, rfl⟩ := Nat.exists_eq_succ_of_ne_zero (Nat.ne_zero_of_lt hlt)
      rw [members_of_other (hS.find?_eq_none hn) hcs hk hb hv h.delimits_members]
      exact ih h seen s fuel hlt
  | @field f v fs vs hg hl ih =>
    cases h with
    | member hcs hk hb hv h =>
      have hlt := (member_length_lt hcs hk hb hv).trans_le (Nat.le_of_lt_succ hfuel)
      obtain ⟨fuel, rfl⟩ := Nat.exists_eq_succ_of_ne_zero (Nat.ne_zero_of_lt hlt)
      obtain ⟨m, hm, hread⟩ := hS.takes f
      obtain ⟨htakes, hrefuses⟩ := hread v hg s
      obtain ⟨hold, hnew⟩ := members_of_known hm hcs hk (fuel + 1) seen s
      by_cases hn : S.name f ∈ seen
      · exact ⟨fun hfresh => absurd hn hfresh.1, fun _ => hold hn⟩
      by_cases ho : S.Once f
      · rw [hnew hn, bind_of_ok (htakes ho hb hv h.delimits_members), Schema.Fresh,
          and_iff_right hn, and_iff_right ho]
        exact ih h _ _ fuel hlt
      · obtain ⟨e, he⟩ := hrefuses ho hb hv h.delimits_members
        refine ⟨fun hfresh => absurd hfresh.2.1 ho, fun _ => ⟨e, ?_⟩⟩
        rw [hnew hn, bind_of_error he]

end Members

/-! ### Whole records -/

/-- No member is missed. -/
theorem recordMembers_of_members (hS : S.Fits ms) {start s : σ} {seen : List String}
    {cs rest : List Char}
    (h : members ms (cs.length + 1) true [] start cs = .ok ((s, seen), rest)) :
    recordMembers ms start cs = .ok (s, rest) := by
  have hall : ms.find? (fun m => m.required && !seen.contains m.name) = none := by
    rw [List.find?_eq_none]
    intro m hm
    simp [hS.optional m hm]
  rw [recordMembers, bind_of_ok (r := fun cs => members ms (cs.length + 1) true [] start cs) h]
  simp only [hall]
  rfl

theorem endObject_of_blanks {cs rest : List Char} (h : Blanks cs ('\x7d' :: rest)) :
    endObject cs = .ok ((), rest) := by
  rw [endObject, bind_of_ok (peekPastSpace_blanks h (by decide))]
  rfl

theorem record_of_brace {cs l : List Char} (h : Blanks cs ('\x7b' :: l)) (expected : String)
    (strict : Bool) (start : σ) :
    record expected ms strict start cs = placed (enclosed (recordMembers ms start) endObject) l := by
  rw [record, placed, bind_of_ok (peekValue_blanks h (by decide))]
  rfl

/-- A failure inside an object is one of the object. -/
theorem placed_enclosed_of_error {α : Type} {r : Reader α} {finish : Reader Unit} {cs : List Char}
    {e : Failure} (h : r cs = .error e) : ∃ e', placed (enclosed r finish) cs = .error e' := by
  have henclosed : ∃ e', enclosed r finish cs = .error e' := by
    rw [enclosed, h]
    simp only
    split <;> exact ⟨_, rfl⟩
  obtain ⟨e', he'⟩ := henclosed
  rw [placed, he']
  exact ⟨_, rfl⟩

section Records

variable {fs : List φ} {v : Value}

/-- **A record is its start with the given fields replaced.** -/
theorem takes_record (hS : S.Fits ms) (hg : S.GivesAll fs v) (hd : S.Distinct fs)
    (expected : String) (strict : Bool) (start : σ) :
    Takes (record expected ms strict start) v (fs.foldl S.set start) := by
  obtain ⟨vs, rfl, hl⟩ := hg
  intro cs b rest hcs hv hrest
  cases hv with
  | object h =>
    obtain ⟨seen, hmembers⟩ := (members_of_spells hS hl h (Nat.lt_succ_self _) [] start).1
      (S.fresh_nil_iff.mpr hd)
    rw [record_of_brace hcs]
    exact placed_of_ok (enclosed_of_ok (recordMembers_of_members hS hmembers)
      (endObject_of_blanks (.none _)))

/-- **A record is refused if one of its fields is given twice.** -/
theorem refuses_record (hS : S.Fits ms) (hg : S.GivesAll fs v) (hd : ¬ S.Distinct fs)
    (expected : String) (strict : Bool) (start : σ) :
    Refuses (record expected ms strict start) v := by
  obtain ⟨vs, rfl, hl⟩ := hg
  intro cs b rest hcs hv hrest
  cases hv with
  | object h =>
    obtain ⟨e, hmembers⟩ := (members_of_spells hS hl h (Nat.lt_succ_self _) [] start).2
      (mt S.fresh_nil_iff.mp hd)
    rw [record_of_brace hcs]
    refine placed_enclosed_of_error (e := e) ?_
    exact bind_of_error (r := fun cs => members ms (cs.length + 1) true [] start cs) hmembers

/-- A record inside another: what is made of it is made of the start with its fields replaced. -/
theorem record_bind {β : Type} (hS : S.Fits ms) (hg : S.GivesAll fs v) {start : σ}
    {f : σ → Reader β} {b : β} (hf : f (fs.foldl S.set start) = pure b) (expected : String)
    (strict : Bool) :
    (S.Distinct fs → Takes (record expected ms strict start >>= f) v b) ∧
      (¬ S.Distinct fs → Refuses (record expected ms strict start >>= f) v) :=
  ⟨fun hd => (takes_record hS hg hd expected strict start).bind hf,
    fun hd => (refuses_record hS hg hd expected strict start).bind f⟩

end Records

/-! ### Records as lists -/

/-- Values fill members in their order; members that are left keep what they have. -/
inductive InOrder : List (Member σ) → σ → List Value → σ → Prop where
  | done (ms : List (Member σ)) (s : σ) : InOrder ms s [] s
  | next {m : Member σ} {ms : List (Member σ)} {s s' t : σ} {v : Value} {vs : List Value}
      (h : Takes (m.read s) v s') (hr : InOrder ms s' vs t) : InOrder (m :: ms) s (v :: vs) t

theorem positionalMembers_of_spells {s t : σ} {vs : List Value} (h : InOrder ms s vs t)
    (expected : String) {index : ℕ} {cs rest : List Char}
    (hv : Spells (.elements (index = 0) vs) cs rest) :
    ∃ l, positionalMembers expected ms false index s cs = .ok (t, l) ∧ Blanks l (']' :: rest) := by
  induction h generalizing index cs with
  | done ms s =>
    cases hv with
    | endList hend =>
      cases ms with
      | nil => exact ⟨cs, rfl, hend⟩
      | cons m ms =>
        refine ⟨_, ?_, .none _⟩
        rw [positionalMembers, bind_of_ok (nextElement_endList hend _)]
        rfl
  | next h hr ih =>
    cases hv with
    | element hcs ha hv hvs =>
      have hvs' : Spells (.elements (index + 1 = 0) _) _ rest := hvs
      obtain ⟨l, hl, hend⟩ := ih hvs'
      refine ⟨l, ?_, hend⟩
      rw [positionalMembers, bind_of_ok (nextElement_of_separator hcs ha hv)]
      simp only [if_true]
      rw [bind_of_ok (h (.none _) hv hvs.delimits_elements)]
      exact hl

theorem takes_inOrder {start t : σ} {vs : List Value} (h : InOrder ms start vs t)
    (expected : String) : Takes (record expected ms false start) (.list vs) t := by
  refine takes_brackets
    (positionalMembers (s!"{expected} with {ms.length} elements") ms false 0 start) ?_ ?_
  · intro cs l hcs
    rw [record, placed, bind_of_ok (peekValue_blanks hcs (by decide))]
    rfl
  · intro l rest hv
    exact positionalMembers_of_spells h _ hv

end Reader

end ShaderConvert.Json
