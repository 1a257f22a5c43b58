import TaskProbe.Proofs.Json.Integers
import TaskProbe.Proofs.Json.Strings
import TaskProbe.Proofs.Json.Values

/-!
# Reading what is spelled

Every spelling of a value is read as the value, if it does not nest too deeply
(`parse_of_spelling`). For each reader there is one lemma for each way it can go on, stated with
`Reads`; the lemmas on lists are about any reader of their entries, and the induction is on the depth
that is left.
-/

namespace TaskProbe.Json

open Text

/-! ## Readers -/

/-- The reader takes `x` off the text and leaves `rest`. -/
def Reads {α : Type} (reader : Reader α) (s : List UInt8) (x : α) (rest : List UInt8) : Prop :=
  ∃ r : Shorter s, reader s = .ok (x, r) ∧ r.1 = rest

theorem skipBlanks_gap {g : List UInt8} (hg : IsGap g) {c : UInt8} {r : List UInt8}
    (hc : Byte.isBlank c = false) : skipBlanks (g ++ c :: r) = c :: r :=
  dropWhile_run hg (startsOutside_cons hc)

section Lists

variable {α : Type} {item : Reader α} {s r rest t u v w : List UInt8} {x : α}

theorem reads_items_last (h : Reads item s x r) (hr : skipBlanks r = Byte.closeBracket :: rest) :
    Reads (items item) s [x] rest := by
  obtain ⟨⟨_, hlen⟩, h, rfl⟩ := h
  unfold Reads
  rw [items, h]
  dsimp only
  split
  · next h' => rw [hr] at h'; cases h'
  · next h' => rw [hr] at h'; cases h'; exact ⟨_, rfl, rfl⟩

theorem reads_items_cons {xs : List α} {d : UInt8} (h : Reads item s x r)
    (hr : skipBlanks r = Byte.comma :: t) (ht : skipBlanks t = d :: u)
    (hd : d ≠ Byte.closeBracket) (hrest : Reads (items item) (d :: u) xs rest) :
    Reads (items item) s (x :: xs) rest := by
  obtain ⟨⟨_, hlen⟩, h, rfl⟩ := h
  obtain ⟨⟨_, hlen'⟩, hrest, rfl⟩ := hrest
  unfold Reads
  rw [items, h]
  dsimp only
  split
  · next h' => rw [hr] at h'; cases h'
  · next h' =>
    rw [hr] at h'
    cases h'
    rw [if_neg (by decide), if_pos rfl]
    split
    · next h'' => rw [ht] at h''; cases h''
    · next h'' =>
      rw [ht] at h''
      cases h''
      rw [if_neg hd, hrest]
      exact ⟨_, rfl, rfl⟩

theorem reads_listBody_nil (hs : skipBlanks s = Byte.closeBracket :: rest) :
    Reads (listBody item) s [] rest := by
  unfold Reads listBody
  split
  · next h' => rw [hs] at h'; cases h'
  · next h' => rw [hs] at h'; cases h'; exact ⟨_, rfl, rfl⟩

theorem reads_listBody {xs : List α} {d : UInt8} (hs : skipBlanks s = d :: u)
    (hd : d ≠ Byte.closeBracket) (h : Reads (items item) (d :: u) xs rest) :
    Reads (listBody item) s xs rest := by
  obtain ⟨⟨_, hlen⟩, h, rfl⟩ := h
  unfold Reads listBody
  split
  · next h' => rw [hs] at h'; cases h'
  · next h' =>
    rw [hs] at h'
    cases h'
    rw [if_neg hd, h]
    exact ⟨_, rfl, rfl⟩

theorem reads_fields_last {key : List Char} (hk : string s = .ok (key, r))
    (hr : skipBlanks r = Byte.colon :: t) (h : Reads item t x u)
    (hu : skipBlanks u = Byte.closeBrace :: rest) :
    Reads (fields item) s [(String.ofList key, x)] rest := by
  obtain ⟨⟨_, hlen⟩, h, rfl⟩ := h
  unfold Reads
  rw [fields]
  split
  · next h' => rw [hk] at h'; cases h'
  · next h' =>
    rw [hk] at h'
    cases h'
    split
    · next h' => rw [hr] at h'; cases h'
    · next h' =>
      rw [hr] at h'
      cases h'
      rw [if_neg (by decide), h]
      dsimp only
      split
      · next h' => rw [hu] at h'; cases h'
      · next h' => rw [hu] at h'; cases h'; exact ⟨_, rfl, rfl⟩

theorem reads_fields_cons {key : List Char} {xs : List (String × α)}
    (hk : string s = .ok (key, r)) (hr : skipBlanks r = Byte.colon :: t) (h : Reads item t x u)
    (hu : skipBlanks u = Byte.comma :: v) (hv : skipBlanks v = Byte.quote :: w)
    (hrest : Reads (fields item) w xs rest) :
    Reads (fields item) s ((String.ofList key, x) :: xs) rest := by
  obtain ⟨⟨_, hlen⟩, h, rfl⟩ := h
  obtain ⟨⟨_, hlen'⟩, hrest, rfl⟩ := hrest
  unfold Reads
  rw [fields]
  split
  · next h' => rw [hk] at h'; cases h'
  · next h' =>
    rw [hk] at h'
    cases h'
    split
    · next h' => rw [hr] at h'; cases h'
    · next h' =>
      rw [hr] at h'
      cases h'
      rw [if_neg (by decide), h]
      dsimp only
      split
      · next h' => rw [hu] at h'; cases h'
      · next h' =>
        rw [hu] at h'
        cases h'
        rw [if_neg (by decide), if_pos rfl]
        split
        · next h' => rw [hv] at h'; cases h'
        · next h' =>
          rw [hv] at h'
          cases h'
          rw [if_pos rfl, hrest]
          exact ⟨_, rfl, rfl⟩

theorem reads_objectBody_nil (hs : skipBlanks s = Byte.closeBrace :: rest) :
    Reads (objectBody item) s [] rest := by
  unfold Reads objectBody
  split
  · next h' => rw [hs] at h'; cases h'
  · next h' => rw [hs] at h'; cases h'; exact ⟨_, rfl, rfl⟩

theorem reads_objectBody {xs : List (String × α)} (hs : skipBlanks s = Byte.quote :: t)
    (h : Reads (fields item) t xs rest) : Reads (objectBody item) s xs rest := by
  obtain ⟨⟨_, hlen⟩, h, rfl⟩ := h
  unfold Reads objectBody
  split
  · next h' => rw [hs] at h'; cases h'
  · next h' =>
    rw [hs] at h'
    cases h'
    rw [if_neg (by decide), if_pos rfl, h]
    exact ⟨_, rfl, rfl⟩

end Lists

/-! ## Values by their first byte -/

/-- The value that starts with the byte `c` is `v`, and `rest` is left. -/
def ReadsFrom (nested : Option (Reader Value)) (c : UInt8) (r : List UInt8) (v : Value)
    (rest : List UInt8) : Prop :=
  ∃ t : Shorter (c :: r), valueFrom nested c r = .ok (v, t) ∧ t.1 = rest

section Values

variable {nested : Option (Reader Value)} {item : Reader Value} {c : UInt8} {s r rest : List UInt8}

theorem reads_valueAt {v : Value} (hs : skipBlanks s = c :: r) (h : ReadsFrom nested c r v rest) :
    Reads (valueAt nested) s v rest := by
  obtain ⟨⟨_, hlen⟩, h, rfl⟩ := h
  unfold Reads valueAt
  split
  · next h' => rw [hs] at h'; cases h'
  · next h' =>
    rw [hs] at h'
    cases h'
    rw [h]
    exact ⟨_, rfl, rfl⟩

theorem word_append : ∀ (w rest : List UInt8), word w (w ++ rest) = .ok rest
  | [], rest => by rw [List.nil_append, word]
  | b :: w, rest => by rw [List.cons_append, word, if_pos rfl, word_append]

theorem readsFrom_null : ReadsFrom nested 0x6E (nullTail ++ rest) .null rest := by
  unfold ReadsFrom valueFrom
  rw [if_pos rfl]
  split
  · next h => rw [word_append] at h; cases h
  · next h => rw [word_append] at h; cases h; exact ⟨_, rfl, rfl⟩

theorem readsFrom_true : ReadsFrom nested 0x74 (trueTail ++ rest) (.bool true) rest := by
  unfold ReadsFrom valueFrom
  rw [if_neg (by decide), if_pos rfl]
  split
  · next h => rw [word_append] at h; cases h
  · next h => rw [word_append] at h; cases h; exact ⟨_, rfl, rfl⟩

theorem readsFrom_false : ReadsFrom nested 0x66 (falseTail ++ rest) (.bool false) rest := by
  unfold ReadsFrom valueFrom
  rw [if_neg (by decide), if_neg (by decide), if_pos rfl]
  split
  · next h => rw [word_append] at h; cases h
  · next h => rw [word_append] at h; cases h; exact ⟨_, rfl, rfl⟩

theorem ne_of_number (hc : c = Byte.minus ∨ Byte.isDigit c = true) :
    c ≠ 0x6E ∧ c ≠ 0x74 ∧ c ≠ 0x66 := by
  refine ⟨?_, ?_, ?_⟩ <;> rintro rfl <;> revert hc <;> decide

theorem not_isBlank_of_number (hc : c = Byte.minus ∨ Byte.isDigit c = true) :
    Byte.isBlank c = false ∧ c ≠ Byte.closeBracket := by
  refine ⟨?_, by rintro rfl; revert hc; decide⟩
  rw [Bool.eq_false_iff]
  intro hb
  simp only [Byte.isBlank, Bool.or_eq_true, beq_iff_eq] at hb
  rcases hb with ((rfl | rfl) | rfl) | rfl <;> revert hc <;> decide

theorem readsFrom_number {n : Number} (hc : c = Byte.minus ∨ Byte.isDigit c = true)
    (h : number c r = .ok (n, rest)) : ReadsFrom nested c r (.number n) rest := by
  obtain ⟨h₁, h₂, h₃⟩ := ne_of_number hc
  have hnumber : (decide (c = Byte.minus) || Byte.isDigit c) = true := by
    rcases hc with rfl | hc
    · rfl
    · rw [hc, Bool.or_true]
  unfold ReadsFrom valueFrom
  rw [if_neg h₁, if_neg h₂, if_neg h₃, if_pos hnumber]
  split
  · next h' => rw [h] at h'; cases h'
  · next h' => rw [h] at h'; cases h'; exact ⟨_, rfl, rfl⟩

theorem readsFrom_string {cs : List Char} (h : string r = .ok (cs, rest)) :
    ReadsFrom nested Byte.quote r (.string (String.ofList cs)) rest := by
  unfold ReadsFrom valueFrom
  rw [if_neg (by decide), if_neg (by decide), if_neg (by decide), if_neg (by decide), if_pos rfl]
  split
  · next h' => rw [h] at h'; cases h'
  · next h' => rw [h] at h'; cases h'; exact ⟨_, rfl, rfl⟩

theorem readsFrom_array {xs : List Value} (h : Reads (listBody item) r xs rest) :
    ReadsFrom (some item) Byte.openBracket r (.array xs) rest := by
  obtain ⟨⟨_, hlen⟩, h, rfl⟩ := h
  unfold ReadsFrom valueFrom
  rw [if_neg (by decide), if_neg (by decide), if_neg (by decide), if_neg (by decide),
    if_neg (by decide), if_pos rfl]
  dsimp only
  rw [h]
  exact ⟨_, rfl, rfl⟩

theorem readsFrom_object {xs : List (String × Value)} (h : Reads (objectBody item) r xs rest) :
    ReadsFrom (some item) Byte.openBrace r (.ofFields xs) rest := by
  obtain ⟨⟨_, hlen⟩, h, rfl⟩ := h
  unfold ReadsFrom valueFrom
  rw [if_neg (by decide), if_neg (by decide), if_neg (by decide), if_neg (by decide),
    if_neg (by decide), if_neg (by decide), if_pos rfl]
  dsimp only
  rw [h]
  exact ⟨_, rfl, rfl⟩

end Values

/-! ## Spelled lists -/

/-- What begins an entry of a list: neither a blank nor the end of a list or an object. -/
def BeginsEntry (t : List UInt8) : Prop :=
  ∃ c r, t = c :: r ∧ Byte.isBlank c = false ∧ c ≠ Byte.closeBracket

theorem not_isNumberByte_of_isBlank {b : UInt8} (h : Byte.isBlank b = true) :
    isNumberByte b = false := by
  simp only [Byte.isBlank, Bool.or_eq_true, beq_iff_eq] at h
  rcases h with ((rfl | rfl) | rfl) | rfl <;> decide

theorem endsNumber_of_gap {g : List UInt8} (hg : IsGap g) {c : UInt8} (hc : isNumberByte c = false)
    (r : List UInt8) : EndsNumber (g ++ c :: r) := by
  cases g with
  | nil => exact startsOutside_cons hc
  | cons b g => exact startsOutside_cons (not_isNumberByte_of_isBlank (hg b List.mem_cons_self))

theorem beginsEntry_of_listed {α : Type} {entry : α → List UInt8 → Prop} {close : UInt8}
    {xs : List α} {t : List UInt8} (h : Listed entry close xs t)
    (hbegin : ∀ x ∈ xs, ∀ t, entry x t → BeginsEntry t) : BeginsEntry t := by
  cases h with
  | last h hg =>
    obtain ⟨c, r, rfl, hc⟩ := hbegin _ List.mem_cons_self _ h
    exact ⟨c, _, rfl, hc⟩
  | cons h hg hg' hs =>
    obtain ⟨c, r, rfl, hc⟩ := hbegin _ List.mem_cons_self _ h
    exact ⟨c, _, rfl, hc⟩

/-- The items of an array are read if each of them is. -/
theorem reads_items_of_listed {α : Type} (item : Reader α) {entry : α → List UInt8 → Prop}
    {xs : List α} {t : List UInt8} (h : Listed entry Byte.closeBracket xs t)
    (hbegin : ∀ x ∈ xs, ∀ t, entry x t → BeginsEntry t)
    (hitem : ∀ x ∈ xs, ∀ t, entry x t → ∀ g, IsGap g → ∀ rest, EndsNumber rest →
      Reads item (g ++ (t ++ rest)) x rest)
    (rest : List UInt8) : Reads (items item) (t ++ rest) xs rest := by
  induction h with
  | @last x t g h hg =>
    have hread := hitem x List.mem_cons_self t h [] isGap_nil (g ++ Byte.closeBracket :: rest)
      (endsNumber_of_gap hg (by decide) rest)
    rw [List.append_assoc, List.append_assoc, List.singleton_append]
    exact reads_items_last hread (skipBlanks_gap hg (by decide))
  | @cons x xs t g g' ts h hg hg' hs ih =>
    have hread := hitem x List.mem_cons_self t h [] isGap_nil
      (g ++ Byte.comma :: (g' ++ (ts ++ rest))) (endsNumber_of_gap hg (by decide) _)
    have hbegin' := fun x hx => hbegin x (List.mem_cons_of_mem _ hx)
    have hrest := ih hbegin' fun x hx => hitem x (List.mem_cons_of_mem _ hx)
    obtain ⟨c, r, hts, hblank, hclose⟩ := beginsEntry_of_listed hs hbegin'
    rw [hts, List.cons_append] at hrest hread
    rw [List.append_assoc, List.append_assoc, List.cons_append, List.append_assoc, hts,
      List.cons_append]
    exact reads_items_cons hread (skipBlanks_gap hg (by decide)) (skipBlanks_gap hg' hblank) hclose
      hrest

/-- The fields of an object, which begin with a quote, are read if the value of each of them is. -/
theorem reads_fields_of_listed (item : Reader Value) {value : Value → List UInt8 → Prop}
    {given : List (String × Value)} {t : List UInt8}
    (h : Listed (FieldSpelling value) Byte.closeBrace given t)
    (hitem : ∀ f ∈ given, ∀ t, value f.2 t → ∀ g, IsGap g → ∀ rest, EndsNumber rest →
      Reads item (g ++ (t ++ rest)) f.2 rest)
    (rest : List UInt8) :
    ∃ s, t ++ rest = Byte.quote :: s ∧ Reads (fields item) s given rest := by
  induction h with
  | @last f t g h hg =>
    obtain @⟨key, v, ks, g₁, g₂, tv, hk, hg₁, hg₂, hv⟩ := h
    refine ⟨ks ++ Byte.quote :: (g₁ ++ Byte.colon ::
      (g₂ ++ (tv ++ (g ++ Byte.closeBrace :: rest)))),
      by simp only [List.cons_append, List.append_assoc, List.nil_append], ?_⟩
    have hread := hitem (key, v) List.mem_cons_self tv hv g₂ hg₂ (g ++ Byte.closeBrace :: rest)
      (endsNumber_of_gap hg (by decide) rest)
    have hlast := reads_fields_last (string_of_spelling hk _) (skipBlanks_gap hg₁ (by decide)) hread
      (skipBlanks_gap hg (by decide))
    rwa [String.ofList_toList] at hlast
  | @cons f given t g g' ts h hg hg' hs ih =>
    obtain @⟨key, v, ks, g₁, g₂, tv, hk, hg₁, hg₂, hv⟩ := h
    obtain ⟨s, hts, hrest⟩ := ih fun x hx => hitem x (List.mem_cons_of_mem _ hx)
    refine ⟨ks ++ Byte.quote :: (g₁ ++ Byte.colon ::
      (g₂ ++ (tv ++ (g ++ Byte.comma :: (g' ++ (ts ++ rest)))))),
      by simp only [List.cons_append, List.append_assoc], ?_⟩
    -- the rest begins with the quote of the next key
    have hread := hitem (key, v) List.mem_cons_self tv hv g₂ hg₂
      (g ++ Byte.comma :: (g' ++ (ts ++ rest))) (endsNumber_of_gap hg (by decide) _)
    rw [hts] at hread ⊢
    have hcons := reads_fields_cons (string_of_spelling hk _) (skipBlanks_gap hg₁ (by decide)) hread
      (skipBlanks_gap hg (by decide)) (skipBlanks_gap hg' (by decide)) hrest
    rwa [String.ofList_toList] at hcons

/-! ## Spelled values -/

open Text.Utf8

theorem encode_words : encode "null".toList = 0x6E :: nullTail ∧
    encode "true".toList = 0x74 :: trueTail ∧ encode "false".toList = 0x66 :: falseTail := by
  decide

/-- What a value begins with: neither a blank nor the end of an array, and only `null` begins as `null`
does. -/
theorem head_of_spelling {v : Value} {t : List UInt8} (h : Spelling v t) :
    ∃ c r, t = c :: r ∧ Byte.isBlank c = false ∧ c ≠ Byte.closeBracket ∧ (v ≠ .null → c ≠ 0x6E) := by
  obtain ⟨hnull, htrue, hfalse⟩ := encode_words
  cases h with
  | null => exact ⟨_, _, hnull, by decide, by decide, fun h => absurd rfl h⟩
  | bool b =>
    cases b with
    | false => exact ⟨_, _, hfalse, by decide, by decide, fun _ => by decide⟩
    | true => exact ⟨_, _, htrue, by decide, by decide, fun _ => by decide⟩
  | int hmin hmax =>
    obtain ⟨c, r, hc, hdigit, -⟩ := number_of_decimalInt hmin hmax startsOutside_nil
    obtain ⟨hblank, hclose⟩ := not_isBlank_of_number hdigit
    exact ⟨c, r, hc, hblank, hclose, fun _ => (ne_of_number hdigit).1⟩
  | string h => exact ⟨_, _, rfl, by decide, by decide, fun _ => by decide⟩
  | noItems hg => exact ⟨_, _, rfl, by decide, by decide, fun _ => by decide⟩
  | items hg h => exact ⟨_, _, rfl, by decide, by decide, fun _ => by decide⟩
  | noFields hg => exact ⟨_, _, rfl, by decide, by decide, fun _ => by decide⟩
  | fields ha hp hg h => exact ⟨_, _, rfl, by decide, by decide, fun _ => by decide⟩

theorem beginsEntry_of_spelling {v : Value} {t : List UInt8} (h : Spelling v t) :
    BeginsEntry t := by
  obtain ⟨c, r, rfl, hblank, hclose, -⟩ := head_of_spelling h
  exact ⟨c, r, rfl, hblank, hclose⟩

/-- The reader of what is nested in a value that is read with some depth left. -/
def nestedReader : Nat → Option (Reader Value)
  | 0 => none
  | depth + 1 => some (value depth)

theorem value_eq_valueAt : ∀ depth, value depth = valueAt (nestedReader depth)
  | 0 => rfl
  | _ + 1 => rfl

/-- Every spelling is read as its value, up to something that cannot belong to it. -/
theorem reads_value_of_spelling (n : Nat) {v : Value} {t : List UInt8} (h : Spelling v t)
    (hd : v.depth ≤ n) {g : List UInt8} (hg : IsGap g) {rest : List UInt8}
    (hrest : EndsNumber rest) : Reads (value n) (g ++ (t ++ rest)) v rest := by
  obtain ⟨hnull, htrue, hfalse⟩ := encode_words
  -- the first byte after the blanks decides how to go on
  have hfirst {c : UInt8} {r : List UInt8} (hc : Byte.isBlank c = false)
      (hread : ReadsFrom (nestedReader n) c r v rest) : Reads (value n) (g ++ c :: r) v rest := by
    rw [value_eq_valueAt]
    exact reads_valueAt (skipBlanks_gap hg hc) hread
  cases h with
  | null =>
    rw [hnull]
    exact hfirst (by decide) readsFrom_null
  | bool b =>
    cases b with
    | false => exact hfalse ▸ hfirst (by decide) readsFrom_false
    | true => exact htrue ▸ hfirst (by decide) readsFrom_true
  | int hmin hmax =>
    obtain ⟨c, r, hc, hhead, hnumber⟩ := number_of_decimalInt hmin hmax hrest
    rw [hc]
    exact hfirst (not_isBlank_of_number hhead).1 (readsFrom_number hhead hnumber)
  | @string s t h =>
    have hread := @readsFrom_string (nestedReader n) _ _ _ (string_of_spelling h rest)
    rw [String.ofList_toList] at hread
    rw [List.cons_append, List.append_assoc]
    exact hfirst (by decide) hread
  | noItems hg' =>
    obtain ⟨m, rfl⟩ : ∃ m, n = m + 1 := Nat.exists_eq_add_one.mpr hd
    rw [List.cons_append, List.append_assoc]
    exact hfirst (by decide) (readsFrom_array (reads_listBody_nil (skipBlanks_gap hg' (by decide))))
  | @items xs g' t hg' h =>
    obtain ⟨m, rfl⟩ : ∃ m, n = m + 1 := Nat.exists_eq_add_one.mpr (Nat.zero_lt_of_lt hd)
    -- the items are read with one level less
    have hdepth : ∀ x ∈ xs, x.depth ≤ m := depthOfItems_le_iff.mp (Nat.le_of_succ_le_succ hd)
    have hbegin : ∀ x ∈ xs, ∀ t, Spelling x t → BeginsEntry t := fun _ _ _ =>
      beginsEntry_of_spelling
    have hitems := reads_items_of_listed (value m) h hbegin
      (fun x hx t ht g hg rest hrest => reads_value_of_spelling m ht (hdepth x hx) hg hrest) rest
    obtain ⟨c, r, rfl, hblank, hclose⟩ := beginsEntry_of_listed h hbegin
    rw [List.cons_append] at hitems
    rw [List.cons_append, List.append_assoc, List.cons_append]
    exact hfirst (by decide)
      (readsFrom_array (reads_listBody (skipBlanks_gap hg' hblank) hclose hitems))
  | noFields hg' =>
    obtain ⟨m, rfl⟩ : ∃ m, n = m + 1 := Nat.exists_eq_add_one.mpr hd
    rw [List.cons_append, List.append_assoc]
    exact hfirst (by decide)
      (readsFrom_object (reads_objectBody_nil (skipBlanks_gap hg' (by decide))))
  | @fields fields given g' t ha hp hg' h =>
    obtain ⟨m, rfl⟩ : ∃ m, n = m + 1 := Nat.exists_eq_add_one.mpr (Nat.zero_lt_of_lt hd)
    have hdepth : ∀ f ∈ given, f.2.depth ≤ m := fun f hf =>
      depthOfFields_le_iff.mp (Nat.le_of_succ_le_succ hd) f (hp.mem_iff.mp hf)
    obtain ⟨s, hs, hfields⟩ := reads_fields_of_listed (value m) h
      (fun f hf t ht g hg rest hrest => reads_value_of_spelling m ht (hdepth f hf) hg hrest) rest
    have hobject := readsFrom_object (reads_objectBody (skipBlanks_gap hg' (by decide)) hfields)
    -- the fields are put in order, whatever order they are given in
    rw [Keyed.ofFields_eq_insertAll, Keyed.insertAll_of_perm ha hp] at hobject
    rw [List.cons_append, List.append_assoc, hs]
    exact hfirst (by decide) hobject
termination_by n

theorem exists_entry_of_listed {α : Type} {entry : α → List UInt8 → Prop} {close : UInt8}
    {xs : List α} {t : List UInt8} (h : Listed entry close xs t) : ∀ x ∈ xs, ∃ t, entry x t := by
  induction h with
  | last h _ => exact List.forall_mem_singleton.mpr ⟨_, h⟩
  | cons h _ _ _ ih => exact List.forall_mem_cons.mpr ⟨⟨_, h⟩, ih⟩

/-- The numbers of a value that is spelled are integers of 64 bits. -/
theorem integral_of_spelling {v : Value} {t : List UInt8} (h : Spelling v t) : v.Integral := by
  cases h with
  | null => exact .null
  | bool b => exact .bool b
  | int hmin hmax => exact .int hmin hmax
  | string => exact .string _
  | noItems => exact .array (List.forall_mem_nil _)
  | @items xs g t hg h =>
    refine .array fun x hx => ?_
    obtain ⟨t', ht⟩ := exists_entry_of_listed h x hx
    have hdepth := depthOfItems_le_iff.mp (Nat.le_refl (depthOfItems xs)) x hx
    exact integral_of_spelling ht
  | noFields => exact .object (List.forall_mem_nil _)
  | @fields fields given g t ha hp hg h =>
    refine .object ?_
    rintro ⟨k, w⟩ hf
    obtain ⟨t', ht⟩ := exists_entry_of_listed h (k, w) (hp.mem_iff.mpr hf)
    have hdepth : w.depth ≤ depthOfFields fields :=
      depthOfFields_le_iff.mp (Nat.le_refl _) (k, w) hf
    cases ht with
    | mk _ _ _ hv => exact integral_of_spelling hv
termination_by v.depth
decreasing_by
  all_goals simp only [Value.depth]; omega

theorem atEnd_of_isGap {g : List UInt8} (hg : IsGap g) : atEnd g = .ok () := by
  have hskip : skipBlanks (g ++ []) = [] := dropWhile_run hg startsOutside_nil
  rw [List.append_nil] at hskip
  unfold atEnd
  rw [hskip]

theorem endsNumber_of_isGap {g : List UInt8} (hg : IsGap g) : EndsNumber g :=
  startsOutside_of_forall fun b hb => not_isNumberByte_of_isBlank (hg b hb)

/-- A whole text is read if nothing but blanks is left of it. -/
theorem readAll_of_reads {α : Type} {reader : Reader α} {text rest : List UInt8} {x : α}
    (h : Reads reader text x rest) (hrest : IsGap rest) : readAll reader text = .ok x := by
  obtain ⟨r, hread, rfl⟩ := h
  unfold readAll
  rw [hread]
  show ((atEnd r.1).bind fun _ => .ok x).mapError _ = _
  rw [atEnd_of_isGap hrest]
  rfl

/-- **Every spelling of a value is read as that value**, with blanks around it, if the value does not
nest too deeply. -/
theorem parse_of_spelling {v : Value} {t : List UInt8} (h : Spelling v t)
    (hd : v.depth ≤ maxDepth) {g g' : List UInt8} (hg : IsGap g) (hg' : IsGap g') :
    parse (g ++ (t ++ g')) = .ok v :=
  readAll_of_reads (reads_value_of_spelling maxDepth h hd hg (endsNumber_of_isGap hg')) hg'

end TaskProbe.Json
