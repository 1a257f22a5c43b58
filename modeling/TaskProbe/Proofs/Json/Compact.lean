import TaskProbe.Json.Printer
import TaskProbe.Proofs.Decimal.Digits
import TaskProbe.Proofs.Text.Utf8

/-!
# Compact texts are one line

A compact text has no control character below the space (`visible_writeCompact`), so no line ends inside
it, and none of its bytes is below the space either (`visible_compact`). In strings and keys such
characters are escaped; everywhere else none is written at all.
-/

namespace TaskProbe.Json

open Text Text.Utf8

/-- A text without control characters below the space. -/
def IsVisible (s : List Char) : Prop := ∀ c ∈ s, 0x20 ≤ c.toNat

instance (s : List Char) : Decidable (IsVisible s) :=
  decidable_of_iff (s.all fun c => decide (0x20 ≤ c.toNat)) (by simp [IsVisible])

@[simp] theorem isVisible_nil : IsVisible [] := by simp [IsVisible]

@[simp] theorem isVisible_cons {c : Char} {s : List Char} :
    IsVisible (c :: s) ↔ 0x20 ≤ c.toNat ∧ IsVisible s := by
  simp [IsVisible]

@[simp] theorem isVisible_append {s t : List Char} :
    IsVisible (s ++ t) ↔ IsVisible s ∧ IsVisible t := by
  simp [IsVisible, or_imp, forall_and]

/-! ## Strings -/

theorem visible_digitChar {d : Nat} (h : d < 16) : 0x20 ≤ (digitChar d).toNat := by
  have hall : ∀ e ∈ List.range 16, 0x20 ≤ (digitChar e).toNat := by decide
  exact hall d (List.mem_range.mpr h)

theorem isVisible_escapeChar (c : Char) : IsVisible (escapeChar c) := by
  by_cases hlow : c.toNat < 0x20
  · -- such a character is escaped, by a letter or by its digits
    have hhigh := visible_digitChar (show c.toNat / 16 < 16 by omega)
    have hrest := visible_digitChar (show c.toNat % 16 < 16 by omega)
    unfold escapeChar
    repeat' split
    all_goals simp_all
  · unfold escapeChar
    repeat' split
    all_goals simp_all

theorem isVisible_writeString (s : List Char) : IsVisible (writeString s) := by
  have hbody : IsVisible (s.flatMap escapeChar) := by
    intro c hc
    obtain ⟨d, -, hd⟩ := List.mem_flatMap.mp hc
    exact isVisible_escapeChar d c hd
  simp [writeString, hbody]

/-! ## Numbers -/

theorem isVisible_decimal (n : Nat) : IsVisible (decimal n) := by
  intro c hc
  obtain ⟨d, hd, rfl⟩ := mem_decimal hc
  exact visible_digitChar (by omega)

theorem isVisible_decimalInt (n : Int) : IsVisible (decimalInt n) := by
  cases n with
  | ofNat n => exact isVisible_decimal n
  | negSucc n => simp [decimalInt, isVisible_decimal]

theorem IsVisible.sublist {s t : List Char} (h : IsVisible t) (hs : s.Sublist t) : IsVisible s :=
  fun c hc => h c (hs.subset hc)

theorem isVisible_zeros (n : Nat) : IsVisible (List.replicate n '0') := by
  intro c hc
  rw [List.eq_of_mem_replicate hc]
  decide

theorem isVisible_writePlain {ds : List Char} (h : IsVisible ds) (exponent : Int) :
    IsVisible (Decimal.writePlain ds exponent) := by
  unfold Decimal.writePlain
  split
  · simp [h, isVisible_zeros]
  · split
    · simp [h.sublist (List.take_sublist _ _), h.sublist (List.drop_sublist _ _)]
    · simp [h, isVisible_zeros]

theorem isVisible_writeScientific {ds : List Char} (h : IsVisible ds) (first : Int) :
    IsVisible (writeScientific ds first) := by
  have hsign : 0x20 ≤ (if first < 0 then '-' else '+').toNat := by split <;> decide
  unfold writeScientific
  refine isVisible_append.mpr ⟨?_, by simp [hsign, isVisible_decimal]⟩
  split
  · simpa using h
  · exact h

theorem isVisible_writeNumber (n : Number) : IsVisible (writeNumber n) := by
  cases n with
  | int n => exact isVisible_decimalInt n
  | float x =>
    have hdigits := isVisible_decimal x.shortest.digits
    have hplain := isVisible_writePlain hdigits x.shortest.exponent
    have hscientific := isVisible_writeScientific hdigits
    simp only [writeNumber, writeFloat]
    split
    · split
      · simp [hplain]
      · simp [hscientific]
    · split
      · exact hplain
      · exact hscientific _

/-! ## Values -/

mutual

theorem isVisible_writeCompact : ∀ v : Value, IsVisible (writeCompact v)
  | .null => by decide
  | .bool true => by decide
  | .bool false => by decide
  | .number n => isVisible_writeNumber n
  | .string s => isVisible_writeString s.toList
  | .array [] => by decide
  | .array (x :: xs) => by
    simp [writeCompact, isVisible_writeCompact x, isVisible_compactItems xs]
  | .object [] => by decide
  | .object ((k, v) :: fields) => by
    simp [writeCompact, isVisible_writeString, isVisible_writeCompact v,
      isVisible_compactFields fields]

theorem isVisible_compactItems : ∀ xs : List Value, IsVisible (compactItems xs)
  | [] => by decide
  | x :: xs => by
    simp [compactItems, isVisible_writeCompact x, isVisible_compactItems xs]

theorem isVisible_compactFields : ∀ fields : List (String × Value), IsVisible (compactFields fields)
  | [] => by decide
  | (k, v) :: fields => by
    simp [compactFields, isVisible_writeString, isVisible_writeCompact v,
      isVisible_compactFields fields]

end

theorem writeNumber_ne_nil (n : Number) : writeNumber n ≠ [] := by
  cases n with
  | int n => cases n <;> simp [writeNumber, decimalInt, decimal_ne_nil]
  | float x =>
    simp only [writeNumber, writeFloat, writeScientific, Decimal.writePlain]
    repeat' split
    all_goals simp

theorem writeCompact_ne_nil (v : Value) : writeCompact v ≠ [] := by
  cases v with
  | null => decide
  | bool b => cases b <;> decide
  | number n => exact writeNumber_ne_nil n
  | string s => simp [writeCompact, writeString]
  | array xs => cases xs <;> simp [writeCompact]
  | object fields => cases fields <;> simp [writeCompact]

/-- **A compact text has no byte below the space.** -/
theorem visible_compact (v : Value) : ∀ b ∈ encode (v.write .compact), 0x20 ≤ b := by
  intro b hb
  obtain ⟨c, hc, hbc⟩ := List.mem_flatMap.mp hb
  have hvisible := isVisible_writeCompact v c hc
  rw [UInt8.le_iff_toNat_le]
  show 0x20 ≤ b.toNat
  rcases mem_encodeChar_cases hbc with heq | hge
  · omega
  · omega

end TaskProbe.Json
