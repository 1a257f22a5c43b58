import TaskProbe.Json.Scan
import TaskProbe.Proofs.Decimal.Digits
import TaskProbe.Proofs.Text.Utf8

/-!
# Integers

An integer of 64 bits is read from its decimal digits as it is, if what follows cannot belong to a
number (`number_of_decimalInt`). Its digits are taken into one integer, and this never exceeds the
bound on the way because it ends below it (`significand_decimal`).
-/

namespace TaskProbe.Json

open Text Text.Utf8

/-! ## Digits -/

/-- The byte of a decimal digit. -/
theorem encodeChar_digitChar {d : Nat} (h : d < 10) : ∃ b, encodeChar (digitChar d) = [b] ∧
    Byte.isDigit b = true ∧ Byte.digitValue b = d ∧ (d ≠ 0 → b ≠ 0x30) := by
  have hall : ∀ e ∈ List.range 10, encodeChar (digitChar e) = [(digitChar e).toNat.toUInt8] ∧
      Byte.isDigit (digitChar e).toNat.toUInt8 = true ∧
      Byte.digitValue (digitChar e).toNat.toUInt8 = e ∧
      (e ≠ 0 → (digitChar e).toNat.toUInt8 ≠ 0x30) := by decide
  exact ⟨_, hall d (List.mem_range.mpr h)⟩

theorem isDigit_of_mem_decimal (n : Nat) : ∀ b ∈ encode (decimal n), Byte.isDigit b = true := by
  induction n using decimal_induction with
  | one d hd =>
    obtain ⟨b, hb, hdigit, -⟩ := encodeChar_digitChar hd
    rw [decimal_of_lt hd, encode_cons, hb]
    intro x hx
    rw [List.mem_singleton.mp hx]
    exact hdigit
  | more n hn ih =>
    obtain ⟨b, hb, hdigit, -⟩ := encodeChar_digitChar (show n % 10 < 10 by omega)
    rw [decimal_of_le hn, encode_append, encode_cons, hb]
    intro x hx
    rcases List.mem_append.mp hx with hx | hx
    · exact ih x hx
    · rw [List.mem_singleton.mp hx]
      exact hdigit

/-- Only zero starts with the digit zero. -/
theorem head_decimal (n : Nat) : ∃ c r, encode (decimal n) = c :: r ∧
    Byte.isDigit c = true ∧ (n ≠ 0 → c ≠ 0x30) := by
  induction n using decimal_induction with
  | one d hd =>
    obtain ⟨b, hb, hdigit, -, hzero⟩ := encodeChar_digitChar hd
    exact ⟨b, [], by rw [decimal_of_lt hd, encode_cons, hb]; rfl, hdigit, hzero⟩
  | more n hn ih =>
    obtain ⟨c, r, hc, hdigit, hzero⟩ := ih
    refine ⟨c, _, by rw [decimal_of_le hn, encode_append, hc, List.cons_append], hdigit, ?_⟩
    exact fun _ => hzero (by omega)

/-- The digits of an integer that fits are all taken. -/
theorem significand_decimal (n : Nat) (h : n ≤ maxUInt64) (more : List UInt8) :
    significand 0 (encode (decimal n) ++ more) = significand n more := by
  induction n using decimal_induction generalizing more with
  | one d hd =>
    obtain ⟨b, hb, -, hvalue, -⟩ := encodeChar_digitChar hd
    rw [decimal_of_lt hd, encode_cons, hb, encode_nil, List.append_nil, List.singleton_append,
      significand, hvalue, if_neg (by omega), Nat.zero_mul, Nat.zero_add]
  | more n hn ih =>
    obtain ⟨b, hb, -, hvalue, -⟩ := encodeChar_digitChar (show n % 10 < 10 by omega)
    have hnext : n / 10 * 10 + n % 10 = n := by omega
    rw [decimal_of_le hn, encode_append, List.append_assoc, ih (by omega), encode_cons, hb,
      encode_nil, List.append_nil, List.singleton_append, significand, hvalue, hnext,
      if_neg (by omega)]

/-! ## Numbers -/

/-- A byte that goes on with a number. -/
def isNumberByte (b : UInt8) : Bool :=
  Byte.isDigit b || b == Byte.point || Byte.isExponentMark b

/-- What follows cannot belong to a number. -/
abbrev EndsNumber (rest : List UInt8) : Prop := StartsOutside isNumberByte rest

theorem EndsNumber.startsOutside_isDigit {rest : List UInt8} (h : EndsNumber rest) :
    StartsOutside Byte.isDigit rest := by
  intro b r hb
  have := h b r hb
  simp only [isNumberByte, Bool.or_eq_false_iff] at this
  exact this.1.1

theorem afterInteger_of_endsNumber (negative : Bool) (n dropped : Nat) {rest : List UInt8}
    (h : EndsNumber rest) :
    afterInteger negative n dropped rest = afterInteger.whole negative n dropped rest := by
  unfold afterInteger
  split
  · next c r =>
    have hc := h c r rfl
    simp only [isNumberByte, Bool.or_eq_false_iff, beq_eq_false_iff_ne] at hc
    rw [if_neg hc.1.2, if_neg (by rw [hc.2]; decide)]
  · rfl

/-- The digits of a number other than zero are all taken at once, up to something that cannot belong to
a number. -/
theorem magnitude_of_ne_zero (negative : Bool) {n : Nat} (hn : n ≠ 0) {rest : List UInt8}
    (h : EndsNumber rest) : magnitude negative (encode (decimal n) ++ rest)
      = afterInteger.whole negative (significand 0 (encode (decimal n))).1
          (significand 0 (encode (decimal n))).2.length rest := by
  obtain ⟨c, r, hc, -, hne⟩ := head_decimal n
  have hall := isDigit_of_mem_decimal n
  rw [hc] at hall ⊢
  have hrun : ∀ b ∈ r, Byte.isDigit b = true := fun b hb => hall b (List.mem_cons_of_mem _ hb)
  rw [← afterInteger_of_endsNumber negative _ _ h, List.cons_append]
  unfold magnitude
  dsimp only
  rw [if_neg (hne hn), if_pos (hall c List.mem_cons_self),
    takeWhile_run hrun h.startsOutside_isDigit, dropWhile_run hrun h.startsOutside_isDigit]

/-- The digits of an integer that fits, up to something that cannot belong to a number. -/
theorem magnitude_decimal (negative : Bool) {n : Nat} (hn : n ≤ maxUInt64) {rest : List UInt8}
    (h : EndsNumber rest) : magnitude negative (encode (decimal n) ++ rest)
      = afterInteger.whole negative n 0 rest := by
  by_cases hzero : n = 0
  · -- a zero is followed by no digit
    subst hzero
    have hdigits : encode (decimal 0) = [0x30] := by
      rw [decimal_of_lt (by decide)]
      decide
    rw [← afterInteger_of_endsNumber negative 0 0 h, hdigits, List.singleton_append]
    unfold magnitude
    dsimp only
    rw [if_pos rfl]
    split
    · next d r =>
      rw [if_neg (by rw [h.startsOutside_isDigit d r rfl]; decide)]
    · rfl
  · have hsig := significand_decimal n hn []
    rw [List.append_nil] at hsig
    rw [magnitude_of_ne_zero negative hzero h, hsig]
    rfl

/-- An integer of 64 bits is read from its digits. -/
theorem number_of_decimalInt {n : Int} (hmin : minInt64 ≤ n) (hmax : n ≤ maxUInt64)
    {rest : List UInt8} (h : EndsNumber rest) : ∃ c r, encode (decimalInt n) = c :: r ∧
      (c = Byte.minus ∨ Byte.isDigit c = true) ∧ number c (r ++ rest) = .ok (.int n, rest) := by
  cases n with
  | ofNat m =>
    have hm : m ≤ maxUInt64 := Int.ofNat_le.mp hmax
    obtain ⟨c, r, hc, hdigit, -⟩ := head_decimal m
    have hmag := magnitude_decimal false hm h
    refine ⟨c, r, hc, .inr hdigit, ?_⟩
    rw [number, if_neg (by rintro rfl; exact absurd hdigit (by decide))]
    rwa [hc] at hmag
  | negSucc m =>
    have hm : m + 1 ≤ maxUInt64 := by
      simp only [minInt64, maxUInt64] at *
      omega
    refine ⟨Byte.minus, encode (decimal (m + 1)), rfl, .inl rfl, ?_⟩
    rw [number, if_pos rfl, magnitude_decimal true hm h]
    simp only [afterInteger.whole]
    -- the digits are those of `m + 1`, so this is neither minus zero nor too small
    rw [if_neg (by decide), if_neg (by decide), if_neg (by simp only [minInt64] at *; omega)]
    rfl

end TaskProbe.Json
