import TaskProbe.Proofs.Json.Parsed
import TaskProbe.Proofs.Json.Reading

/-!
# Wide integers

What the digits of an integer are read as, however many there are (`parse_decimalInt`). An integer of 64
bits is read as itself. Of any other as many digits are taken as fit, the rest are counted, and the result
is a binary64 number.
-/

namespace TaskProbe.Json

open Text Text.Utf8

/-! ## Digits that do not fit -/

/-- Once a digit does not fit, all that follow it are left as well. -/
theorem significand_append_of_ne_nil {ds : List UInt8} {value : Nat}
    (h : (significand value ds).2 ≠ []) (more : List UInt8) :
    significand value (ds ++ more)
      = ((significand value ds).1, (significand value ds).2 ++ more) := by
  induction ds generalizing value with
  | nil => exact absurd rfl h
  | cons d ds ih =>
    rw [List.cons_append]
    unfold significand at h ⊢
    dsimp only at h ⊢
    by_cases hfits : maxUInt64 < value * 10 + Byte.digitValue d
    · rw [if_pos hfits, if_pos hfits]
      rfl
    · rw [if_neg hfits] at h
      rw [if_neg hfits, if_neg hfits]
      exact ih h

/-- What is taken of the digits of a number that does not fit fills all bits but a few. -/
theorem significand_of_lt {n : Nat} (h : maxUInt64 < n) :
    (significand 0 (encode (decimal n))).2 ≠ [] ∧
      maxUInt64 < (significand 0 (encode (decimal n))).1 * 10 + 10 := by
  induction n using decimal_induction with
  | one d hd =>
    simp only [maxUInt64] at h
    omega
  | more n hn ih =>
    obtain ⟨b, hb, -, hvalue, -⟩ := encodeChar_digitChar (show n % 10 < 10 by omega)
    rw [decimal_of_le hn, encode_append, encode_cons, hb, encode_nil, List.append_nil]
    by_cases hprev : maxUInt64 < n / 10
    · obtain ⟨hdropped, hvalue⟩ := ih hprev
      rw [significand_append_of_ne_nil hdropped]
      exact ⟨by simp, hvalue⟩
    · -- the last digit is the first one that does not fit
      have hnext : n / 10 * 10 + n % 10 = n := by omega
      rw [significand_decimal (n / 10) (Nat.le_of_not_lt hprev), significand, hvalue, hnext, if_pos h]
      exact ⟨by simp, by omega⟩

/-! ## Numbers -/

/-- What is taken of the digits of a number, and how many of them are left: all are taken if they fit,
and else as many as fit. -/
inductive Taken (n : Nat) : Nat → Nat → Prop where
  | all : Taken n n 0
  | some {value more : Nat} (hn : maxUInt64 < n) (h : maxUInt64 < value * 10 + 10) :
      Taken n value (more + 1)

theorem magnitude_of_lt (negative : Bool) {n : Nat} (h : maxUInt64 < n) :
    ∃ value more, Taken n value more ∧ ∀ rest, EndsNumber rest →
      magnitude negative (encode (decimal n) ++ rest) = floatNumber negative value more rest := by
  obtain ⟨hdropped, hvalue⟩ := significand_of_lt h
  have hlength := List.length_pos_iff.mpr hdropped
  refine ⟨(significand 0 (encode (decimal n))).1, (significand 0 (encode (decimal n))).2.length, ?_,
    fun rest hrest => ?_⟩
  · rw [← Nat.sub_add_cancel hlength]
    exact .some h hvalue
  · rw [magnitude_of_ne_zero negative (Nat.ne_of_gt (Nat.zero_lt_of_lt h)) hrest]
    simp only [afterInteger.whole]
    rw [if_pos (Nat.ne_of_gt hlength)]

/-- An integer that is not read as itself is read from what is taken of its digits. -/
theorem number_of_wide {n : Int} (hn : n < minInt64 ∨ maxUInt64 < n) :
    ∃ value more c r, Taken n.natAbs value more ∧ encode (decimalInt n) = c :: r ∧
      (c = Byte.minus ∨ Byte.isDigit c = true) ∧ ∀ rest, EndsNumber rest →
        number c (r ++ rest) = floatNumber (decide (n < 0)) value more rest := by
  cases n with
  | ofNat m =>
    have hm : maxUInt64 < m := by
      rcases hn with hn | hn
      · exact absurd (Int.lt_trans hn (by decide : minInt64 < 0)) (Int.not_lt.mpr (Int.natCast_nonneg m))
      · exact Int.ofNat_lt.mp hn
    obtain ⟨value, more, htaken, hmag⟩ := magnitude_of_lt false hm
    obtain ⟨c, r, hc, hdigit, -⟩ := head_decimal m
    refine ⟨value, more, c, r, htaken, hc, .inr hdigit, fun rest hrest => ?_⟩
    rw [number, if_neg (by rintro rfl; exact absurd hdigit (by decide))]
    have := hmag rest hrest
    rwa [hc] at this
  | negSucc m =>
    rw [decide_eq_true (Int.negSucc_lt_zero m)]
    by_cases hm : maxUInt64 < m + 1
    · obtain ⟨value, more, htaken, hmag⟩ := magnitude_of_lt true hm
      refine ⟨value, more, Byte.minus, encode (decimal (m + 1)), htaken, rfl, .inl rfl,
        fun rest hrest => ?_⟩
      rw [number, if_pos rfl, hmag rest hrest]
    · -- all digits fit, but a minus sign is in front of them
      refine ⟨m + 1, 0, Byte.minus, encode (decimal (m + 1)), .all, rfl, .inl rfl,
        fun rest hrest => ?_⟩
      rw [number, if_pos rfl, magnitude_decimal true (Nat.le_of_not_lt hm) hrest]
      simp only [afterInteger.whole]
      rw [if_neg (by decide), if_neg (by decide), if_pos]
      · rfl
      · simp only [minInt64, maxUInt64] at *
        omega

/-! ## Texts of one number -/

theorem number_of_valueFrom {nested : Option (Reader Value)} {c : UInt8} {r : List UInt8}
    {v : Value} {t : Shorter (c :: r)} (hc : c = Byte.minus ∨ Byte.isDigit c = true)
    (h : valueFrom nested c r = .ok (v, t)) :
    ∃ x rest, number c r = .ok (x, rest) ∧ v = .number x := by
  obtain ⟨h₁, h₂, h₃⟩ := ne_of_number hc
  unfold valueFrom at h
  rw [if_neg h₁, if_neg h₂, if_neg h₃, if_pos (by simpa using hc)] at h
  split at h
  · cases h
  · next hnumber =>
    cases h
    exact ⟨_, _, hnumber, rfl⟩

theorem number_of_parse {c : UInt8} {r : List UInt8} {v : Value}
    (hc : c = Byte.minus ∨ Byte.isDigit c = true) (h : parse (c :: r) = .ok v) :
    ∃ x rest, number c r = .ok (x, rest) ∧ v = .number x := by
  obtain ⟨t, ht⟩ := value_of_parse h
  have hskip := skipBlanks_gap isGap_nil (not_isBlank_of_number hc).1 (r := r)
  rw [value_eq_valueAt] at ht
  unfold valueAt at ht
  split at ht
  · cases ht
  next d s hs =>
  cases hskip.symm.trans hs
  split at ht
  · cases ht
  next w u hu =>
  cases ht
  exact number_of_valueFrom hc hu

/-- **What an integer is read as**, of whatever size. -/
theorem parse_decimalInt {n : Int} {v : Value} (h : parse (encode (decimalInt n)) = .ok v) :
    (minInt64 ≤ n ∧ n ≤ maxUInt64 ∧ v = .number (.int n)) ∨
      ((n < minInt64 ∨ maxUInt64 < n) ∧ ∃ value more x, Taken n.natAbs value more ∧
        scaled? value more = some x ∧ v = .number (.float { x with negative := n < 0 })) := by
  by_cases hn : minInt64 ≤ n ∧ n ≤ maxUInt64
  · have hint := parse_of_spelling (.int hn.1 hn.2) (Nat.zero_le _) isGap_nil isGap_nil
    rw [List.nil_append, List.append_nil, h] at hint
    exact .inl ⟨hn.1, hn.2, Except.ok.inj hint⟩
  · have hwide : n < minInt64 ∨ maxUInt64 < n := by
      rcases Classical.not_and_iff_not_or_not.mp hn with hn | hn
      · exact .inl (Int.not_le.mp hn)
      · exact .inr (Int.not_le.mp hn)
    obtain ⟨value, more, c, r, htaken, hc, hhead, hnumber⟩ := number_of_wide hwide
    rw [hc] at h
    obtain ⟨x, rest, hx, rfl⟩ := number_of_parse hhead h
    have hfloat := hnumber [] startsOutside_nil
    rw [List.append_nil, hx] at hfloat
    unfold floatNumber at hfloat
    split at hfloat
    · next y hy => cases hfloat; exact .inr ⟨hwide, value, more, y, htaken, hy, rfl⟩
    · cases hfloat

end TaskProbe.Json
