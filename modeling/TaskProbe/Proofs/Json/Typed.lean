import TaskProbe.Json.Typed
import TaskProbe.Proofs.Json.Reading

/-!
# Reading what is expected

A reader that expects one kind of value takes every spelling of such a value (`ReadsAs`): a string, a
flag, an unsigned integer. Where the value is optional, `null` may stand in its place
(`readsAs_optional_null`), and every other value is read as before (`readsAs_optional`).
-/

namespace TaskProbe.Json

open Text

/-- The reader takes every spelling of the value `v` as `x`, with a gap before it and with anything
after it that cannot belong to it. -/
def ReadsAs {α : Type} (reader : Reader α) (v : Value) (x : α) : Prop :=
  ∀ t, Spelling v t → ∀ g, IsGap g → ∀ rest, EndsNumber rest → Reads reader (g ++ (t ++ rest)) x rest

/-- What is read may be put into something larger. -/
theorem Reads.map {α β : Type} {reader : Reader α} {s rest : List UInt8} {x : α}
    (h : Reads reader s x rest) (f : α → β) :
    Reads (fun s => (reader s).map fun (x, rest) => (f x, rest)) s (f x) rest := by
  obtain ⟨r, h, rfl⟩ := h
  refine ⟨r, ?_, rfl⟩
  dsimp only
  rw [h]
  rfl

theorem ReadsAs.map {α β : Type} {reader : Reader α} {v : Value} {x : α}
    (h : ReadsAs reader v x) (f : α → β) :
    ReadsAs (fun s => (reader s).map fun (x, rest) => (f x, rest)) v (f x) :=
  fun t ht g hg rest hrest => (h t ht g hg rest hrest).map f

namespace Typed

variable {α : Type} {reader : Reader α} {s r rest : List UInt8} {c : UInt8}

theorem reads_atValue {read : (c : UInt8) → (r : List UInt8) → Except Failure (α × Shorter (c :: r))}
    {x : α} {u : Shorter (c :: r)} (hs : skipBlanks s = c :: r)
    (h : read c r = .ok (x, u)) (hu : u.1 = rest) : Reads (atValue read) s x rest := by
  unfold Reads atValue
  split
  · next hnil => cases hs.symm.trans hnil
  · next hcons =>
    cases hs.symm.trans hcons
    rw [h]
    exact ⟨_, rfl, hu⟩

/-- A string is read from any of its spellings, with a gap before it. -/
theorem reads_string {s : String} {t g : List UInt8} (h : Spelling (.string s) t)
    (hg : IsGap g) (rest : List UInt8) : Reads string (g ++ (t ++ rest)) s.toList rest := by
  cases h with
  | @string _ body h =>
    have hskip : skipBlanks (g ++ (Byte.quote :: (body ++ [Byte.quote]) ++ rest))
        = Byte.quote :: (body ++ Byte.quote :: rest) := by
      rw [List.cons_append, skipBlanks_gap hg (by decide), List.append_assoc]
      rfl
    have hbody := string_of_spelling h rest
    refine reads_atValue (u := ⟨rest, length_of_string hbody⟩) hskip ?_ rfl
    rw [if_pos rfl]
    split
    · next hstring => cases hbody.symm.trans hstring
    · next hstring =>
      cases hbody.symm.trans hstring
      rfl

theorem readsAs_string (s : String) : ReadsAs string (.string s) s.toList :=
  fun _ h _ hg rest _ => reads_string h hg rest

theorem reads_bool_true (hs : skipBlanks s = 0x74 :: (trueTail ++ rest)) :
    Reads bool s true rest := by
  have hword := word_append trueTail rest
  refine reads_atValue (u := ⟨rest, length_of_word hword⟩) hs ?_ rfl
  rw [if_pos rfl]
  split
  · next h => cases hword.symm.trans h
  · next h =>
    cases hword.symm.trans h
    rfl

theorem reads_bool_false (hs : skipBlanks s = 0x66 :: (falseTail ++ rest)) :
    Reads bool s false rest := by
  have hword := word_append falseTail rest
  refine reads_atValue (u := ⟨rest, length_of_word hword⟩) hs ?_ rfl
  rw [if_neg (by decide), if_pos rfl]
  split
  · next h => cases hword.symm.trans h
  · next h =>
    cases hword.symm.trans h
    rfl

theorem readsAs_bool (b : Bool) : ReadsAs bool (.bool b) b := by
  obtain ⟨-, htrue, hfalse⟩ := encode_words
  intro t h g hg rest _
  cases h
  cases b with
  | false => exact hfalse ▸ reads_bool_false (skipBlanks_gap hg (by decide))
  | true => exact htrue ▸ reads_bool_true (skipBlanks_gap hg (by decide))

theorem readsAs_uint64 (n : Nat) : ReadsAs uint64 (.number (.int n)) n := by
  intro t h g hg rest hrest
  cases h with
  | int hmin hmax =>
    obtain ⟨c, r, hc, hhead, hnumber⟩ := number_of_decimalInt hmin hmax hrest
    rw [hc]
    have hdigit : (decide (c = Byte.minus) || Byte.isDigit c) = true := by
      simpa using hhead
    refine reads_atValue (u := ⟨rest, Nat.lt_succ_of_le (number_length hnumber)⟩)
      (skipBlanks_gap hg (not_isBlank_of_number hhead).1) ?_ rfl
    rw [if_pos hdigit]
    split
    · next h => cases hnumber.symm.trans h
    · next h =>
      cases hnumber.symm.trans h
      rw [if_pos (Int.natCast_nonneg n)]
      rfl
    · next h => cases hnumber.symm.trans h

/-! ## Optional values -/

theorem readsAs_optional_null : ReadsAs (optional reader) .null none := by
  obtain ⟨hnull, -, -⟩ := encode_words
  intro t h g hg rest _
  cases h
  have hword := word_append nullTail rest
  rw [hnull]
  refine reads_atValue (u := ⟨rest, length_of_word hword⟩) (skipBlanks_gap hg (by decide)) ?_ rfl
  rw [if_pos rfl]
  split
  · next h => cases hword.symm.trans h
  · next h =>
    cases hword.symm.trans h
    rfl

theorem readsAs_optional {v : Value} {x : α} (hv : v ≠ .null) (h : ReadsAs reader v x) :
    ReadsAs (optional reader) v (some x) := by
  intro t ht g hg rest hrest
  obtain ⟨c, r, rfl, hblank, -, hne⟩ := head_of_spelling ht
  -- the value is read from its first byte on, without the gap
  obtain ⟨u, hread, hu⟩ := h (c :: r) ht [] isGap_nil rest hrest
  refine reads_atValue (skipBlanks_gap hg hblank) ?_ hu
  rw [if_neg (hne hv)]
  exact congrArg (Except.map _) hread

end Typed

end TaskProbe.Json
