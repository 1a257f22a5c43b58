import TaskProbe.Json.Basic

/-!
# Fields in order

Putting fields into an object one after the other keeps the keys in strictly ascending order
(`ascending_insertAll`). Fields of different keys end up as they are, whatever order they are put in
(`insertAll_of_perm`). If not every item makes a field, an order of the fields is still one of the items
(`exists_perm_of_filterMap`).
-/

namespace TaskProbe.Keyed

variable {α : Type}

/-- The keys are in strictly ascending order, so each of them is there once. -/
def Ascending (fields : List (String × α)) : Prop := fields.Pairwise (·.1 < ·.1)

theorem Ascending.distinct {fields : List (String × α)} (h : Ascending fields) :
    fields.Pairwise (·.1 ≠ ·.1) :=
  h.imp fun hlt heq => by
    rw [heq] at hlt
    exact String.lt_irrefl _ hlt

/-- Some of a list of ascending keys are ascending. -/
theorem ascending_of_sublist {fields : List (String × α)} {keys : List String}
    (hkeys : keys.Pairwise (· < ·)) (h : (fields.map (·.1)).Sublist keys) : Ascending fields :=
  List.pairwise_map.mp (hkeys.sublist h)

/-- Puts one field after the other into its place. -/
def insertAll (object given : List (String × α)) : List (String × α) :=
  given.foldl (fun object field => insert field.1 field.2 object) object

theorem ofFields_eq_insertAll (given : List (String × Json.Value)) :
    Json.Value.ofFields given = .object (insertAll [] given) := rfl

/-! ## One field -/

theorem mem_of_mem_insert {key : String} {value : α} {f : String × α} :
    ∀ {fields : List (String × α)}, f ∈ insert key value fields → f = (key, value) ∨ f ∈ fields
  | [], h => .inl (List.mem_singleton.mp h)
  | (k, v) :: fields, h => by
    unfold insert at h
    split at h
    · exact List.mem_cons.mp h
    split at h
    · exact (List.mem_cons.mp h).imp_right (List.mem_cons_of_mem _)
    · rcases List.mem_cons.mp h with rfl | h
      · exact .inr List.mem_cons_self
      · exact (mem_of_mem_insert h).imp_right (List.mem_cons_of_mem _)

theorem lt_of_not_lt_of_ne {k k' : String} (h : ¬ k < k') (hne : k ≠ k') : k' < k := by
  refine String.not_le.mp fun hle => hne ?_
  exact String.le_antisymm hle (String.not_lt.mp h)

/-- A field put into its place keeps the order. -/
theorem ascending_insert (key : String) (value : α) : ∀ {fields : List (String × α)},
    Ascending fields → Ascending (insert key value fields)
  | [], _ => List.pairwise_singleton _ _
  | (k, v) :: fields, h => by
    obtain ⟨hhead, htail⟩ := List.pairwise_cons.mp h
    unfold insert
    split
    · -- before all others
      next hlt =>
      refine List.pairwise_cons.mpr ⟨fun f hf => ?_, h⟩
      rcases List.mem_cons.mp hf with rfl | hf
      · exact hlt
      · exact String.lt_trans hlt (hhead f hf)
    split
    · -- instead of the first one
      next heq => exact List.pairwise_cons.mpr ⟨heq ▸ hhead, htail⟩
    · -- somewhere behind the first one, whose key is below the new one
      next hlt hne =>
      refine List.pairwise_cons.mpr ⟨fun f hf => ?_, ascending_insert key value htail⟩
      rcases mem_of_mem_insert hf with rfl | hf
      · exact lt_of_not_lt_of_ne hlt hne
      · exact hhead f hf

/-- A field of a new key is added. -/
theorem insert_perm {key : String} {value : α} : ∀ {fields : List (String × α)},
    (∀ f ∈ fields, f.1 ≠ key) → (insert key value fields).Perm ((key, value) :: fields)
  | [], _ => .refl _
  | (k, v) :: fields, h => by
    unfold insert
    split
    · exact .refl _
    rw [if_neg (h (k, v) List.mem_cons_self).symm]
    have hrest : (insert key value fields).Perm ((key, value) :: fields) :=
      insert_perm fun f hf => h f (List.mem_cons_of_mem _ hf)
    exact (hrest.cons (k, v)).trans (.swap _ _ _)

/-! ## Finding fields -/

theorem lookup_insert_self (key : String) (value : α) : ∀ fields : List (String × α),
    lookup key (insert key value fields) = some value
  | [] => by simp [insert, lookup]
  | (k, v) :: fields => by
    unfold insert
    split
    · simp [lookup]
    split
    · simp [lookup]
    · next hne => rw [lookup, if_neg (Ne.symm hne), lookup_insert_self key value fields]

theorem insert_cons_self (key : String) (value value' : α) (fields : List (String × α)) :
    insert key value' ((key, value) :: fields) = (key, value') :: fields := by
  rw [insert, if_neg (String.lt_irrefl key), if_pos rfl]

/-- What is put in last takes the place of what was there. -/
theorem insert_insert (key : String) (value value' : α) : ∀ fields : List (String × α),
    insert key value' (insert key value fields) = insert key value' fields
  | [] => insert_cons_self key value value' []
  | (k, v) :: fields => by
    by_cases hlt : key < k
    · rw [insert, insert, if_pos hlt, if_pos hlt, insert_cons_self]
    by_cases heq : key = k
    · subst heq
      rw [insert_cons_self, insert_cons_self, insert_cons_self]
    · simp [insert, hlt, heq, insert_insert key value value' fields]

theorem mem_of_lookup {key : String} {value : α} : ∀ {fields : List (String × α)},
    lookup key fields = some value → (key, value) ∈ fields
  | [], h => by cases h
  | (k, v) :: fields, h => by
    unfold lookup at h
    split at h
    · next heq =>
      cases h
      exact heq ▸ List.mem_cons_self
    · exact List.mem_cons_of_mem _ (mem_of_lookup h)

theorem lookup_eq_none_iff {key : String} : ∀ {fields : List (String × α)},
    lookup key fields = none ↔ ∀ f ∈ fields, f.1 ≠ key
  | [] => by simp [lookup]
  | (k, v) :: fields => by
    have hrest : lookup key fields = none ↔ ∀ f ∈ fields, f.1 ≠ key := lookup_eq_none_iff
    by_cases heq : k = key
    · simp [lookup, heq]
    · simp [lookup, heq, hrest]

/-! ## Many fields -/

theorem ascending_insertAll : ∀ (given : List (String × α)) {object : List (String × α)},
    Ascending object → Ascending (insertAll object given)
  | [], _, h => h
  | (k, v) :: given, _, h => ascending_insertAll given (ascending_insert k v h)

theorem mem_of_mem_insertAll {f : String × α} : ∀ {given object : List (String × α)},
    f ∈ insertAll object given → f ∈ object ∨ f ∈ given
  | [], _, h => .inl h
  | (k, v) :: given, object, h => by
    change f ∈ insertAll (insert k v object) given at h
    rcases mem_of_mem_insertAll h with h | h
    · rcases mem_of_mem_insert h with rfl | h
      · exact .inr List.mem_cons_self
      · exact .inl h
    · exact .inr (List.mem_cons_of_mem _ h)

theorem insertAll_perm : ∀ {given object : List (String × α)},
    (object ++ given).Pairwise (·.1 ≠ ·.1) → (insertAll object given).Perm (object ++ given)
  | [], object, _ => by rw [List.append_nil]; exact .refl _
  | (k, v) :: given, object, h => by
    have hnew : ∀ f ∈ object, f.1 ≠ k := fun f hf =>
      (List.pairwise_append.mp h).2.2 f hf (k, v) List.mem_cons_self
    -- the keys stay distinct when the field moves from those given into the object
    have hinsert : (insert k v object ++ given).Perm (object ++ (k, v) :: given) :=
      ((insert_perm hnew).append_right given).trans List.perm_middle.symm
    have hpairwise : (insert k v object ++ given).Pairwise (·.1 ≠ ·.1) :=
      hinsert.symm.pairwise h Ne.symm
    exact (insertAll_perm hpairwise).trans hinsert

/-- Fields in ascending order are found again from any order that they are given in. -/
theorem insertAll_of_perm {fields given : List (String × α)} (h : Ascending fields)
    (hp : given.Perm fields) : insertAll [] given = fields := by
  have hgiven : given.Pairwise (·.1 ≠ ·.1) := hp.symm.pairwise h.distinct Ne.symm
  have hsame : (insertAll [] given).Perm fields := (@insertAll_perm α given [] hgiven).trans hp
  refine List.Perm.eq_of_pairwise (fun f g _ _ hfg hgf => ?_)
    (ascending_insertAll given List.Pairwise.nil) h hsame
  exact absurd hgf (String.lt_asymm hfg)

/-- An order of what is made of the items of a list comes from an order of the items. -/
theorem exists_perm_of_filterMap {β : Type} {f : α → Option β} : ∀ {given : List β} {items : List α},
    given.Perm (items.filterMap f) → ∃ order : List α, order.Perm items ∧ order.filterMap f = given
  | [], items, h => ⟨items, .refl _, List.nil_perm.mp h⟩
  | b :: given, items, h => by
    obtain ⟨a, ha, hb⟩ := List.mem_filterMap.mp (h.subset List.mem_cons_self)
    obtain ⟨before, after, rfl⟩ := List.append_of_mem ha
    have hitems : (before ++ a :: after).Perm (a :: (before ++ after)) := List.perm_middle
    have hrest := h.trans (hitems.filterMap f)
    rw [List.filterMap_cons_some hb] at hrest
    obtain ⟨order, horder, hgiven⟩ := exists_perm_of_filterMap hrest.cons_inv
    refine ⟨a :: order, (horder.cons a).trans hitems.symm, ?_⟩
    rw [List.filterMap_cons_some hb, hgiven]

end TaskProbe.Keyed
