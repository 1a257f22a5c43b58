import TaskProbe.Proofs.Outcomes
import TaskProbe.Toml.Typed

/-!
# Sections read from tables

A section puts each field of a table into a place of its own (`Shape.Lawful`). Then a table with each
key once is accepted exactly if all of its keys are known and all of its values fit, and what was read
has the value of each key that is there and of no other (`Shape.Lawful.foldlM_putKnown`).
-/

namespace TaskProbe.Toml

/-! ## Single values -/

theorem boolean_eq_ok_iff {node : Node} {b : Bool} :
    boolean node = .ok b ↔ node = .scalar (.boolean b) := by
  unfold boolean
  split
  · simp
  · next hnode =>
    constructor
    · intro h
      cases h
    · intro h
      exact absurd h (hnode b)

theorem text_eq_ok_iff {node : Node} {s : String} :
    text node = .ok s ↔ node = .scalar (.string s.toList) := by
  unfold text
  split
  · next cs =>
    simp only [Except.ok.injEq, Node.scalar.injEq, Scalar.string.injEq]
    constructor
    · rintro rfl
      exact String.toList_ofList.symm
    · rintro rfl
      exact String.ofList_toList
  · next hnode =>
    constructor
    · intro h
      cases h
    · intro h
      exact absurd h (hnode _)

theorem isNarrow_iff {n : Int} : isNarrow n = true ↔ minInt64 ≤ n ∧ n ≤ maxUInt64 := by
  rw [isNarrow, Bool.and_eq_true, decide_eq_true_iff, decide_eq_true_iff]

theorem uint64_eq_ok_iff {node : Node} {n : Nat} :
    uint64 node = .ok n ↔ n ≤ maxUInt64 ∧ node = .scalar (.integer n) := by
  have hmin : minInt64 ≤ 0 := by decide
  unfold uint64
  split
  · next i =>
    simp only [Node.scalar.injEq, Scalar.integer.injEq]
    by_cases hi : isNarrow i = true
    · have hbounds := isNarrow_iff.mp hi
      rw [if_pos hi]
      by_cases hsign : 0 ≤ i
      · rw [if_pos hsign, Except.ok.injEq]
        omega
      · rw [if_neg hsign]
        simp only [reduceCtorEq, false_iff]
        omega
    · have hbounds := mt isNarrow_iff.mpr hi
      rw [if_neg hi]
      simp only [reduceCtorEq, false_iff]
      omega
  · next hnode =>
    constructor
    · intro h
      cases h
    · rintro ⟨-, h⟩
      exact absurd h (hnode _)

/-! ## Fields -/

/-- The key is in the table exactly if it has a value, and then it has that value there. -/
def Carries (fields : Fields) (key : String) (value : Option Scalar) : Prop :=
  ∀ node, (key, node) ∈ fields ↔ value.map Node.scalar = some node

namespace Shape

variable {α β : Type} {shape : Shape α}

/-- Each field of a section has a place of its own: `reads` relates what stands in a document to the
value that it gives to the field, and `view` is the value in the place of the field. -/
structure Lawful (shape : Shape α) (reads : String → Node → β → Prop)
    (view : α → String → Option β) : Prop where
  /-- At first there are no values. -/
  empty : ∀ key ∈ shape.fields, view shape.empty key = none
  /-- A field that is put in gets the value that was read, and no other field changes. -/
  put : ∀ {content key node content'}, key ∈ shape.fields →
    shape.put content key node = .ok content' →
    ∃ x, reads key node x ∧ view content' key = some x ∧
      ∀ other ∈ shape.fields, other ≠ key → view content' other = view content other
  /-- What can be read belongs to a field, and is put in. -/
  accepts : ∀ {key node x} content, reads key node x →
    key ∈ shape.fields ∧ ∃ content', shape.put content key node = .ok content'

theorem putKnown_eq_ok_iff {content content' : α} {field : String × Node} :
    shape.putKnown content field = .ok content' ↔
      field.1 ∈ shape.fields ∧ shape.put content field.1 field.2 = .ok content' := by
  unfold putKnown
  by_cases h : field.1 ∈ shape.fields
  · simp [h]
  · simp [h]

/-- A value without parts is no section. -/
theorem read_scalar {x : Scalar} {c : α} : shape.read (.scalar x) ≠ .ok c := by
  unfold read
  split <;> simp_all

namespace Lawful

variable {reads : String → Node → β → Prop} {view : α → String → Option β}

/-- What a whole table leaves in the places of the fields. -/
theorem foldlM_putKnown (h : shape.Lawful reads view) :
    ∀ {fields : Fields} {content c : α}, fields.Pairwise (·.1 ≠ ·.1) →
      fields.foldlM shape.putKnown content = .ok c →
      (∀ f ∈ fields, f.1 ∈ shape.fields ∧ ∃ x, reads f.1 f.2 x ∧ view c f.1 = some x) ∧
        ∀ key ∈ shape.fields, (∀ f ∈ fields, f.1 ≠ key) → view c key = view content key
  | [], _, _, _, hc => by
    cases hc
    simp
  | f :: fields, content, c, hdistinct, hc => by
    rw [List.foldlM_cons] at hc
    obtain ⟨content', hput, hrest⟩ := bind_eq_ok_iff.mp hc
    obtain ⟨hkey, hput⟩ := putKnown_eq_ok_iff.mp hput
    obtain ⟨x, hx, hview, hothers⟩ := h.put hkey hput
    obtain ⟨hhead, htail⟩ := List.pairwise_cons.mp hdistinct
    obtain ⟨hfields, hunchanged⟩ := h.foldlM_putKnown htail hrest
    constructor
    · intro f' hf'
      rcases List.mem_cons.mp hf' with rfl | hf'
      · -- the rest of the table has other keys
        refine ⟨hkey, x, hx, ?_⟩
        rw [hunchanged _ hkey fun f'' hf'' => (hhead f'' hf'').symm, hview]
      · exact hfields f' hf'
    · intro key hknown habsent
      have hne : f.1 ≠ key := habsent f List.mem_cons_self
      rw [hunchanged key hknown fun f' hf' => habsent f' (List.mem_cons_of_mem _ hf'),
        hothers key hknown hne.symm]

theorem view_of_mem (h : shape.Lawful reads view) {fields : Fields} {c : α}
    (hdistinct : fields.Pairwise (·.1 ≠ ·.1)) (hc : shape.ofFields fields = .ok c)
    {f : String × Node} (hf : f ∈ fields) :
    f.1 ∈ shape.fields ∧ ∃ x, reads f.1 f.2 x ∧ view c f.1 = some x :=
  (h.foldlM_putKnown hdistinct hc).1 f hf

/-- A field has no value exactly if its key is not in the table. -/
theorem view_eq_none_iff (h : shape.Lawful reads view) {fields : Fields} {c : α}
    (hdistinct : fields.Pairwise (·.1 ≠ ·.1)) (hc : shape.ofFields fields = .ok c)
    {key : String} (hkey : key ∈ shape.fields) :
    view c key = none ↔ ∀ f ∈ fields, f.1 ≠ key := by
  constructor
  · rintro hnone f hf rfl
    obtain ⟨-, x, -, hx⟩ := h.view_of_mem hdistinct hc hf
    rw [hnone] at hx
    cases hx
  · intro habsent
    rw [(h.foldlM_putKnown hdistinct hc).2 key hkey habsent, h.empty key hkey]

/-- A table is accepted if all of its values can be read. -/
theorem exists_foldlM_putKnown (h : shape.Lawful reads view) :
    ∀ {fields : Fields} (content : α), (∀ f ∈ fields, ∃ x, reads f.1 f.2 x) →
      ∃ c, fields.foldlM shape.putKnown content = .ok c
  | [], content, _ => ⟨content, rfl⟩
  | f :: fields, content, hfields => by
    obtain ⟨x, hx⟩ := hfields f List.mem_cons_self
    obtain ⟨hkey, content', hput⟩ := h.accepts content hx
    obtain ⟨c, hc⟩ := h.exists_foldlM_putKnown content'
      fun f' hf' => hfields f' (List.mem_cons_of_mem _ hf')
    refine ⟨c, ?_⟩
    rw [List.foldlM_cons, putKnown_eq_ok_iff.mpr ⟨hkey, hput⟩]
    exact hc

theorem exists_ofFields (h : shape.Lawful reads view) {fields : Fields}
    (hfields : ∀ f ∈ fields, ∃ x, reads f.1 f.2 x) : ∃ c, shape.ofFields fields = .ok c :=
  h.exists_foldlM_putKnown shape.empty hfields

/-- A section whose fields have no parts holds exactly the values of its table. -/
theorem carries {fits : String → Scalar → Prop} {view : α → String → Option Scalar}
    (h : shape.Lawful (fun key node x => node = .scalar x ∧ fits key x) view) {fields : Fields}
    {c : α} (hdistinct : fields.Pairwise (·.1 ≠ ·.1)) (hc : shape.ofFields fields = .ok c)
    {key : String} (hkey : key ∈ shape.fields) : Carries fields key (view c key) := by
  intro node
  constructor
  · intro hnode
    obtain ⟨-, x, ⟨hx, -⟩, hview⟩ := h.view_of_mem hdistinct hc hnode
    simp only at hx hview
    rw [hview, hx, Option.map_some]
  · intro hview
    obtain ⟨x, hx, rfl⟩ := Option.map_eq_some_iff.mp hview
    -- the place has a value, so the key is in the table
    by_cases habsent : ∀ f ∈ fields, f.1 ≠ key
    · rw [(h.view_eq_none_iff hdistinct hc hkey).mpr habsent] at hx
      cases hx
    · obtain ⟨⟨key', node⟩, hf, rfl⟩ : ∃ f ∈ fields, f.1 = key := by simpa using habsent
      obtain ⟨-, y, ⟨rfl, -⟩, hy⟩ := h.view_of_mem hdistinct hc hf
      cases hy.symm.trans hx
      exact hf

end Lawful

end Shape

end TaskProbe.Toml
