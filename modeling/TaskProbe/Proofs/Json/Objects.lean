import TaskProbe.Json.Shape
import TaskProbe.Proofs.Json.Typed

/-!
# Objects of a known shape

An object whose members are given in any order is read as what its members make of the empty content,
one after the other (`Shape.Fills.readAll_object`). A member is an item with a key and a value, and reading
it changes the content by a step of that item alone (`Shape.Fills`). The induction is on the spelled
list of members; what it carries is that no key has been given twice.
-/

namespace TaskProbe.Json.Shape

variable {α ι : Type} {shape : Shape α}

/-- The items of an object: each has a known key, and its value is read into the content by `step`. -/
structure Fills (shape : Shape α) (member : ι → String × Value) (step : α → ι → α) : Prop where
  known : ∀ i, (member i).1 ∈ shape.fields
  put : ∀ content i, ReadsAs (shape.put content (member i).1) (member i).2 (step content i)

/-! ## Single members -/

section Members

variable {given : List String} {content content' : α} {key : String}
  {s r rest t u : List UInt8}

/-- What follows a field that is read: the end of the object, if no required field is missing, or a
comma and the next field. -/
inductive AfterField (shape : Shape α) (given : List String) (content : α) (u : List UInt8) :
    α → List UInt8 → Prop where
  | close {rest : List UInt8} (hu : skipBlanks u = Byte.closeBrace :: rest)
      (hall : ∀ name ∈ shape.required, name ∈ given) : AfterField shape given content u content rest
  | comma {v w rest : List UInt8} {final : α} (hu : skipBlanks u = Byte.comma :: v)
      (hv : skipBlanks v = Byte.quote :: w) (h : Reads (shape.fieldsFrom given content) w final rest) :
      AfterField shape given content u final rest

theorem reads_field (hknown : key ∈ shape.fields)
    (h : Reads (shape.put content key) t content' u) :
    Reads (shape.field content key) t content' u := by
  obtain ⟨z, h, rfl⟩ := h
  refine ⟨z, ?_, rfl⟩
  unfold field
  rw [if_pos (List.contains_iff_mem.mpr hknown)]
  exact h

theorem reads_fieldsFrom {final : α} (hk : string s = .ok (key.toList, r))
    (hnew : key ∉ given) (hknown : key ∈ shape.fields)
    (hr : skipBlanks r = Byte.colon :: t)
    (hput : Reads (shape.put content key) t content' u)
    (hafter : AfterField shape (key :: given) content' u final rest) :
    Reads (shape.fieldsFrom given content) s final rest := by
  obtain ⟨⟨_, hlen⟩, hfield, rfl⟩ := reads_field hknown hput
  unfold Reads
  rw [fieldsFrom]
  split
  · next h => cases hk.symm.trans h
  next h =>
  cases hk.symm.trans h
  rw [String.ofList_toList, if_neg (mt List.contains_iff_mem.mp hnew),
    if_pos (List.contains_iff_mem.mpr hknown)]
  dsimp only
  split
  · next h => cases hr.symm.trans h
  next h =>
  cases hr.symm.trans h
  rw [if_neg (by decide), hfield]
  dsimp only
  cases hafter with
  | close hu hall =>
    have hnothing : shape.required.find? (!(key :: given).contains ·) = none := by
      rw [List.find?_eq_none]
      intro name hname
      simp only [List.contains_iff_mem.mpr (hall name hname), Bool.not_true, Bool.false_eq_true,
        not_false_eq_true]
    split
    · next h => cases hu.symm.trans h
    next h =>
    cases hu.symm.trans h
    rw [if_pos rfl, hnothing]
    exact ⟨_, rfl, rfl⟩
  | comma hu hv hrest =>
    obtain ⟨⟨_, hlen'⟩, hrest, rfl⟩ := hrest
    split
    · next h => cases hu.symm.trans h
    next h =>
    cases hu.symm.trans h
    rw [if_neg (by decide), if_pos rfl]
    split
    · next h => cases hv.symm.trans h
    next h =>
    cases hv.symm.trans h
    rw [if_pos rfl, hrest]
    exact ⟨_, rfl, rfl⟩

theorem reads_object_nil (hs : skipBlanks s = Byte.closeBrace :: rest) (hnone : shape.required = []) :
    Reads shape.object s shape.empty rest := by
  unfold Reads object
  split
  · next h => cases hs.symm.trans h
  next h =>
  cases hs.symm.trans h
  rw [if_pos rfl, hnone]
  exact ⟨_, rfl, rfl⟩

theorem reads_object (hs : skipBlanks s = Byte.quote :: t)
    (h : Reads (shape.fieldsFrom [] shape.empty) t content rest) :
    Reads shape.object s content rest := by
  obtain ⟨⟨_, hlen⟩, h, rfl⟩ := h
  unfold Reads object
  split
  · next h' => cases hs.symm.trans h'
  next h' =>
  cases hs.symm.trans h'
  rw [if_neg (by decide), if_pos rfl, h]
  exact ⟨_, rfl, rfl⟩

theorem reads_reader (hs : skipBlanks s = Byte.openBrace :: r)
    (h : Reads shape.object r content rest) : Reads shape.reader s content rest := by
  obtain ⟨u, h, hu⟩ := h
  refine Typed.reads_atValue (u := u.cons _) hs ?_ hu
  rw [if_neg (by decide), if_pos rfl, h]

end Members

/-! ## Whole objects -/

namespace Fills

variable {member : ι → String × Value} {step : α → ι → α}

/-- One member, up to what follows it. -/
theorem reads_member (hfills : shape.Fills member step) {i : ι} {t u rest : List UInt8}
    {given : List String} {content final : α} (h : FieldSpelling Spelling (member i) t)
    (hnew : (member i).1 ∉ given) (hu : EndsNumber u)
    (hafter : AfterField shape ((member i).1 :: given) (step content i) u final rest) :
    ∃ s, t ++ u = Byte.quote :: s ∧ Reads (shape.fieldsFrom given content) s final rest := by
  have hput := hfills.put content i
  have hknown := hfills.known i
  generalize member i = f at *
  obtain @⟨key, v, ks, g, g', tv, hk, hg, hg', hv⟩ := h
  refine ⟨ks ++ Byte.quote :: (g ++ Byte.colon :: (g' ++ (tv ++ u))),
    by simp only [List.cons_append, List.append_assoc], ?_⟩
  exact reads_fieldsFrom (string_of_spelling hk _) hnew hknown (skipBlanks_gap hg (by decide))
    (hput tv hv g' hg' u hu) hafter

/-- The members from one of them on, which begins with a quote; `given` are the keys before it. -/
theorem reads_members (hfills : shape.Fills member step) {members : List (String × Value)}
    {t : List UInt8} (h : Listed (FieldSpelling Spelling) Byte.closeBrace members t)
    (rest : List UInt8) : ∀ {items : List ι} {given : List String} (content : α),
    items.map member = members → (∀ f ∈ members, f.1 ∉ given) → members.Pairwise (·.1 ≠ ·.1) →
    (∀ name ∈ shape.required, name ∈ given ∨ ∃ f ∈ members, f.1 = name) →
    ∃ s, t ++ rest = Byte.quote :: s ∧
      Reads (shape.fieldsFrom given content) s (items.foldl step content) rest := by
  induction h with
  | @last f t g h hg =>
    intro items given content hitems hnew _ hall
    obtain ⟨i, rfl, rfl⟩ := List.map_eq_singleton_iff.mp hitems
    have hgiven : ∀ name ∈ shape.required, name ∈ (member i).1 :: given := by
      intro name hname
      rcases hall name hname with hold | ⟨f, hf, rfl⟩
      · exact List.mem_cons_of_mem _ hold
      · exact List.mem_singleton.mp hf ▸ List.mem_cons_self
    rw [List.append_assoc, List.append_assoc, List.singleton_append]
    exact hfills.reads_member h (hnew _ List.mem_cons_self) (endsNumber_of_gap hg (by decide) rest)
      (.close (skipBlanks_gap hg (by decide)) hgiven)
  | @cons f members t g g' ts h hg hg' hs ih =>
    intro items given content hitems hnew hdistinct hall
    obtain ⟨i, items, rfl, rfl, rfl⟩ := List.map_eq_cons_iff.mp hitems
    obtain ⟨hother, hdistinct⟩ := List.pairwise_cons.mp hdistinct
    -- the key of this member is given when the others are read
    obtain ⟨s, hts, hrest⟩ := @ih items ((member i).1 :: given) (step content i) rfl
      (fun f hf => by
        rw [List.mem_cons, not_or]
        exact ⟨(hother f hf).symm, hnew f (List.mem_cons_of_mem _ hf)⟩) hdistinct
      (fun name hname => by
        rcases hall name hname with hold | ⟨f, hf, rfl⟩
        · exact .inl (List.mem_cons_of_mem _ hold)
        rcases List.mem_cons.mp hf with rfl | hf
        · exact .inl List.mem_cons_self
        · exact .inr ⟨f, hf, rfl⟩)
    rw [List.append_assoc, List.append_assoc, List.cons_append, List.append_assoc, hts]
    exact hfills.reads_member h (hnew _ List.mem_cons_self) (endsNumber_of_gap hg (by decide) _)
      (.comma (skipBlanks_gap hg (by decide)) (skipBlanks_gap hg' (by decide)) hrest)

/-- The members of an object in the order in which they are given. -/
theorem reads_object_of_listed (hfills : shape.Fills member step) {items : List ι}
    {t gap : List UInt8} (h : Listed (FieldSpelling Spelling) Byte.closeBrace (items.map member) t)
    (hdistinct : (items.map member).Pairwise (·.1 ≠ ·.1))
    (hall : ∀ name ∈ shape.required, ∃ f ∈ items.map member, f.1 = name) (hgap : IsGap gap)
    (rest : List UInt8) :
    Reads shape.object (gap ++ (t ++ rest)) (items.foldl step shape.empty) rest := by
  obtain ⟨s, hs, hread⟩ := hfills.reads_members h rest shape.empty rfl (fun _ _ => List.not_mem_nil)
    hdistinct fun name hname => .inr (hall name hname)
  rw [hs]
  exact reads_object (skipBlanks_gap hgap (by decide)) hread

/-- **An object is read as what its members make of the empty content**, in the order in which they are
given, if their keys are distinct and no required one is missing. -/
theorem readAll_object (hfills : shape.Fills member step) {items : List ι}
    (hdistinct : (items.map member).Pairwise (·.1 ≠ ·.1))
    (hall : ∀ name ∈ shape.required, ∃ f ∈ items.map member, f.1 = name) {t g g' : List UInt8}
    (h : Spelling (.ofFields (items.map member)) t) (hg : IsGap g) (hg' : IsGap g') :
    ∃ order : List ι, order.Perm items ∧
      readAll shape.reader (g ++ (t ++ g')) = .ok (order.foldl step shape.empty) := by
  have hsorted : (Keyed.insertAll [] (items.map member)).Perm (items.map member) :=
    Keyed.insertAll_perm hdistinct
  rw [Keyed.ofFields_eq_insertAll] at h
  generalize Keyed.insertAll [] (items.map member) = fields at h hsorted
  cases h with
  | noFields hgap =>
    have hitems : items = [] := List.map_eq_nil_iff.mp (List.nil_perm.mp hsorted)
    subst hitems
    have hnone : shape.required = [] := by
      refine List.eq_nil_iff_forall_not_mem.mpr fun name hname => ?_
      obtain ⟨f, hf, -⟩ := hall name hname
      cases hf
    refine ⟨[], .refl _, readAll_of_reads ?_ hg'⟩
    rw [List.cons_append, List.append_assoc]
    exact reads_reader (skipBlanks_gap hg (by decide))
      (reads_object_nil (skipBlanks_gap hgap (by decide)) hnone)
  | @fields _ given gap t _ hgiven hgap ht =>
    -- the members are given in some order, and so are the items
    have hperm : given.Perm (items.filterMap (some ∘ member)) := by
      rw [List.filterMap_eq_map]
      exact hgiven.trans hsorted
    obtain ⟨order, horder, rfl⟩ := Keyed.exists_perm_of_filterMap hperm
    rw [List.filterMap_eq_map] at ht
    have hsame := horder.map member
    refine ⟨order, horder, readAll_of_reads ?_ hg'⟩
    rw [List.cons_append, List.append_assoc]
    refine reads_reader (skipBlanks_gap hg (by decide)) (hfills.reads_object_of_listed ht
      (hsame.symm.pairwise hdistinct Ne.symm) (fun name hname => ?_) hgap g')
    obtain ⟨f, hf, hf'⟩ := hall name hname
    exact ⟨f, hsame.mem_iff.mpr hf, hf'⟩

end Fills

end TaskProbe.Json.Shape
