import TaskProbe.Json.Parser
import TaskProbe.Proofs.Json.Values

/-!
# Values that are read

Whatever the text, a value that is read from it nests no deeper than allowed and has its objects in
order (`wellFormed_of_parse`). An item or a field only gets into a value through the reader of items,
so the lemmas on lists are about any property that this reader gives.
-/

namespace TaskProbe.Json

/-! ## Items and fields -/

section Lists

variable {α : Type} {item : Reader α} {p : α → Prop}

theorem length_lt_of_skipBlanks_twice {s r t u : List UInt8} {c d : UInt8}
    (hr : r.length < s.length) (ht : skipBlanks r = c :: t) (hu : skipBlanks t = d :: u) :
    (d :: u).length < s.length :=
  Nat.lt_of_le_of_lt (length_le_of_skipBlanks hu) (Nat.lt_trans (length_of_skipBlanks ht) hr)

theorem forall_mem_items (hp : ∀ s x r, item s = .ok (x, r) → p x) {s : List UInt8} {xs : List α}
    {r : Shorter s} (h : items item s = .ok (xs, r)) : ∀ x ∈ xs, p x := by
  rw [items] at h
  split at h
  · cases h
  next x t hlen hx =>
  have hx := hp _ _ _ hx
  split at h
  · cases h
  next c t' ht =>
  dsimp only at h
  split at h
  · cases h
    exact List.forall_mem_singleton.mpr hx
  split at h
  · split at h
    · cases h
    next d u hu =>
    -- the items after the comma are in a shorter text
    have hshorter := length_lt_of_skipBlanks_twice hlen ht hu
    split at h
    · cases h
    split at h
    · cases h
    · next hxs =>
      cases h
      exact List.forall_mem_cons.mpr ⟨hx, forall_mem_items hp hxs⟩
  · cases h
termination_by s.length

theorem forall_mem_fields (hp : ∀ s x r, item s = .ok (x, r) → p x) {s : List UInt8}
    {fs : List (String × α)} {r : Shorter s} (h : fields item s = .ok (fs, r)) :
    ∀ f ∈ fs, p f.2 := by
  rw [fields] at h
  split at h
  · cases h
  next key t hkey =>
  have hlen := stringBody_length hkey
  dsimp only at h hlen
  split at h
  · cases h
  next c t' ht =>
  split at h
  · cases h
  split at h
  · cases h
  next x u hlen' hx =>
  have hx := hp _ _ _ hx
  have hlen'' := Nat.lt_trans hlen' (Nat.lt_trans (length_of_skipBlanks ht) hlen)
  split at h
  · cases h
  next d v hv =>
  split at h
  · cases h
    exact List.forall_mem_singleton.mpr hx
  split at h
  · split at h
    · cases h
    next e w hw =>
    have hshorter : w.length < s.length :=
      Nat.lt_of_succ_lt (length_lt_of_skipBlanks_twice hlen'' hv hw)
    split at h
    · split at h
      · cases h
      · next hfs =>
        cases h
        exact List.forall_mem_cons.mpr ⟨hx, forall_mem_fields hp hfs⟩
    · split at h <;> cases h
  · cases h
termination_by s.length

theorem forall_mem_listBody (hp : ∀ s x r, item s = .ok (x, r) → p x) {s : List UInt8}
    {xs : List α} {r : Shorter s} (h : listBody item s = .ok (xs, r)) : ∀ x ∈ xs, p x := by
  unfold listBody at h
  split at h
  · cases h
  split at h
  · cases h
    exact List.forall_mem_nil p
  split at h
  · cases h
  · next hxs =>
    cases h
    exact forall_mem_items hp hxs

theorem forall_mem_objectBody (hp : ∀ s x r, item s = .ok (x, r) → p x) {s : List UInt8}
    {fs : List (String × α)} {r : Shorter s} (h : objectBody item s = .ok (fs, r)) :
    ∀ f ∈ fs, p f.2 := by
  unfold objectBody at h
  split at h
  · cases h
  split at h
  · cases h
    exact List.forall_mem_nil _
  split at h
  · split at h
    · cases h
    · next hfs =>
      cases h
      exact forall_mem_fields hp hfs
  · cases h

end Lists

/-! ## Values -/

/-- What holds of every value that is read with some depth left. -/
structure WellFormed (depth : Nat) (v : Value) : Prop where
  depth : v.depth ≤ depth
  ordered : v.Ordered

theorem wellFormed_array {depth : Nat} {xs : List Value} (h : ∀ x ∈ xs, WellFormed depth x) :
    WellFormed (depth + 1) (.array xs) :=
  ⟨Nat.succ_le_succ (depthOfItems_le_iff.mpr fun x hx => (h x hx).depth),
    .array fun x hx => (h x hx).ordered⟩

/-- The fields of an object are found among those given, and are put in order. -/
theorem wellFormed_ofFields {depth : Nat} {given : List (String × Value)}
    (h : ∀ f ∈ given, WellFormed depth f.2) : WellFormed (depth + 1) (.ofFields given) := by
  have hmem : ∀ f ∈ Keyed.insertAll [] given, f ∈ given := fun f hf =>
    (Keyed.mem_of_mem_insertAll hf).resolve_left List.not_mem_nil
  rw [Keyed.ofFields_eq_insertAll]
  refine ⟨Nat.succ_le_succ (depthOfFields_le_iff.mpr fun f hf => (h f (hmem f hf)).depth), ?_⟩
  exact .object (Keyed.ascending_insertAll given List.Pairwise.nil) fun f hf =>
    (h f (hmem f hf)).ordered

theorem wellFormed_of_valueFrom {depth : Nat} {nested : Option (Reader Value)}
    (hnested : ∀ item, nested = some item → ∃ n, depth = n + 1 ∧
      ∀ s v r, item s = .ok (v, r) → WellFormed n v)
    {c : UInt8} {r : List UInt8} {v : Value} {t : Shorter (c :: r)}
    (h : valueFrom nested c r = .ok (v, t)) : WellFormed depth v := by
  have hdepth {v : Value} (h : v.depth = 0) : v.depth ≤ depth := h ▸ Nat.zero_le depth
  unfold valueFrom at h
  split at h
  · split at h
    · cases h
    · cases h; exact ⟨hdepth rfl, .null⟩
  split at h
  · split at h
    · cases h
    · cases h; exact ⟨hdepth rfl, .bool true⟩
  split at h
  · split at h
    · cases h
    · cases h; exact ⟨hdepth rfl, .bool false⟩
  split at h
  · split at h
    · cases h
    · cases h; exact ⟨hdepth rfl, .number _⟩
  split at h
  · split at h
    · cases h
    · cases h; exact ⟨hdepth rfl, .string _⟩
  split at h
  · split at h
    · cases h
    next item =>
    split at h
    · cases h
    next hxs =>
    cases h
    obtain ⟨n, rfl, hitem⟩ := hnested item rfl
    exact wellFormed_array (forall_mem_listBody hitem hxs)
  split at h
  · split at h
    · cases h
    next item =>
    split at h
    · cases h
    next hfs =>
    cases h
    obtain ⟨n, rfl, hitem⟩ := hnested item rfl
    exact wellFormed_ofFields (forall_mem_objectBody hitem hfs)
  · cases h

theorem wellFormed_of_valueAt {depth : Nat} {nested : Option (Reader Value)}
    (hnested : ∀ item, nested = some item → ∃ n, depth = n + 1 ∧
      ∀ s v r, item s = .ok (v, r) → WellFormed n v)
    {s : List UInt8} {v : Value} {t : Shorter s} (h : valueAt nested s = .ok (v, t)) :
    WellFormed depth v := by
  unfold valueAt at h
  split at h
  · cases h
  split at h
  · cases h
  · next hv =>
    cases h
    exact wellFormed_of_valueFrom hnested hv

theorem wellFormed_of_value : ∀ (depth : Nat) (s : List UInt8) (v : Value) (t : Shorter s),
    value depth s = .ok (v, t) → WellFormed depth v
  | 0, _, _, _, h => wellFormed_of_valueAt (by rintro item ⟨⟩) h
  | n + 1, _, _, _, h => by
    refine wellFormed_of_valueAt (fun item hitem => ⟨n, rfl, ?_⟩) h
    cases hitem
    exact wellFormed_of_value n

/-- A text that is read as a value has the value at its front. -/
theorem value_of_parse {text : List UInt8} {v : Value} (h : parse text = .ok v) :
    ∃ rest, value maxDepth text = .ok (v, rest) := by
  unfold parse readAll at h
  cases hv : value maxDepth text with
  | error e => rw [hv] at h; cases h
  | ok x =>
    obtain ⟨w, rest⟩ := x
    rw [hv] at h
    change ((atEnd rest.1).bind fun _ => .ok w).mapError _ = _ at h
    cases hend : atEnd rest.1 with
    | error e => rw [hend] at h; cases h
    | ok u =>
      rw [hend] at h
      cases h
      exact ⟨rest, rfl⟩

/-- Every value that is read from a text is in order and nests no deeper than allowed. -/
theorem wellFormed_of_parse {text : List UInt8} {v : Value} (h : parse text = .ok v) :
    WellFormed maxDepth v := by
  obtain ⟨rest, hv⟩ := value_of_parse h
  exact wellFormed_of_value maxDepth text v rest hv

end TaskProbe.Json
