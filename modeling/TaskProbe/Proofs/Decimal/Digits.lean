import TaskProbe.Decimal.Numeral
import TaskProbe.Proofs.Text.Runs
import TaskProbe.Text.Digits

/-!
# Decimal digits

What is written in decimal is read back, as a natural number (`readDigits?_decimal`), as an integer
(`IntegerSpelling.readInt?`) and as a numeral without a point (`Numeral.read?_decimalInt`). An integer
may have a sign that it does not need and zeros in front of its digits.
-/

namespace TaskProbe

namespace Text

theorem decimal_of_lt {n : Nat} (h : n < 10) : decimal n = [digitChar n] := by
  rw [decimal, digits, if_neg (by omega)]

theorem decimal_of_le {n : Nat} (h : 10 ≤ n) :
    decimal n = decimal (n / 10) ++ [digitChar (n % 10)] := by
  rw [decimal, digits, if_pos ⟨h, by decide⟩]
  rfl

/-- A statement about decimal digits follows from what one digit more does to it. -/
theorem decimal_induction {p : Nat → Prop} (one : ∀ d < 10, p d)
    (more : ∀ n, 10 ≤ n → p (n / 10) → p n) (n : Nat) : p n := by
  induction n using Nat.strongRecOn with
  | _ n ih =>
    by_cases h : n < 10
    · exact one n h
    · exact more n (by omega) (ih (n / 10) (by omega))

theorem mem_decimal {n : Nat} {c : Char} (h : c ∈ decimal n) : ∃ d < 10, c = digitChar d := by
  induction n using decimal_induction with
  | one d hd =>
    rw [decimal_of_lt hd] at h
    exact ⟨d, hd, List.mem_singleton.mp h⟩
  | more n hn ih =>
    rw [decimal_of_le hn] at h
    rcases List.mem_append.mp h with h | h
    · exact ih h
    · exact ⟨n % 10, by omega, List.mem_singleton.mp h⟩

theorem decimal_ne_nil (n : Nat) : decimal n ≠ [] := by
  unfold decimal digits
  split <;> simp

/-- Only zero starts with the digit zero. -/
theorem exists_cons_decimal (n : Nat) :
    ∃ c r, decimal n = c :: r ∧ (c = '0' → n = 0) := by
  induction n using decimal_induction with
  | one d hd =>
    have hall : ∀ e ∈ List.range 10, digitChar e = '0' → e = 0 := by decide
    exact ⟨digitChar d, [], decimal_of_lt hd, hall d (List.mem_range.mpr hd)⟩
  | more n hn ih =>
    obtain ⟨c, r, hc, hzero⟩ := ih
    refine ⟨c, r ++ [digitChar (n % 10)], by rw [decimal_of_le hn, hc, List.cons_append], ?_⟩
    intro h
    have := hzero h
    omega

/-- Digits are neither blanks nor signs. -/
theorem digitChar_spec {d : Nat} (h : d < 10) : (digitChar d).isDigit = true ∧
    isBlank (digitChar d) = false ∧ digitChar d ≠ '-' ∧ digitChar d ≠ '+' ∧
    digitValue? 10 (digitChar d) = some d := by
  have hall : ∀ e ∈ List.range 10, (digitChar e).isDigit = true ∧
      isBlank (digitChar e) = false ∧ digitChar e ≠ '-' ∧ digitChar e ≠ '+' ∧
      digitValue? 10 (digitChar e) = some e := by decide
  exact hall d (List.mem_range.mpr h)

/-- A number of so many digits is at least that power of ten. -/
theorem pow_length_decimal_le {n : Nat} (h : n ≠ 0) : Nat.pow 10 ((decimal n).length - 1) ≤ n := by
  induction n using decimal_induction with
  | one d hd =>
    rw [decimal_of_lt hd]
    exact Nat.pos_of_ne_zero h
  | more n hn ih =>
    have hprev := ih (by omega)
    have hlength := List.length_pos_iff.mpr (decimal_ne_nil (n / 10))
    obtain ⟨l, hl⟩ : ∃ l, (decimal (n / 10)).length = l + 1 :=
      ⟨_, (Nat.sub_add_cancel hlength).symm⟩
    rw [hl, Nat.add_sub_cancel] at hprev
    rw [decimal_of_le hn, List.length_append, hl, List.length_singleton, Nat.add_sub_cancel]
    show Nat.pow 10 l * 10 ≤ n
    omega

theorem isDigit_of_mem_decimal {n : Nat} {c : Char} (h : c ∈ decimal n) : c.isDigit = true := by
  obtain ⟨d, hd, rfl⟩ := mem_decimal h
  exact (digitChar_spec hd).1

theorem isDigit_of_mem_zeros {zeros n : Nat} {c : Char}
    (h : c ∈ List.replicate zeros '0' ++ decimal n) : c.isDigit = true := by
  rcases List.mem_append.mp h with h | h
  · rw [List.eq_of_mem_replicate h]
    decide
  · exact isDigit_of_mem_decimal h

theorem isBlank_of_isDigit {c : Char} (h : c.isDigit = true) : isBlank c = false := by
  have hrange : 0x30 ≤ c.toNat ∧ c.toNat ≤ 0x39 := by
    rw [Char.isDigit, Bool.and_eq_true, decide_eq_true_eq, decide_eq_true_eq] at h
    exact h
  simp only [isBlank, Bool.or_eq_false_iff, Bool.and_eq_false_iff, decide_eq_false_iff_not,
    beq_eq_false_iff_ne]
  omega

/-! ## Reading back -/

theorem valueOf_concat (base value : Nat) (ds : List Nat) (d : Nat) :
    valueOf base value (ds ++ [d]) = valueOf base value ds * base + d := by
  induction ds generalizing value with
  | nil => rfl
  | cons e ds ih => exact ih _

theorem mapM_digitValue?_decimal (n : Nat) :
    ∃ ds, (decimal n).mapM (digitValue? 10) = some ds ∧ valueOf 10 0 ds = n := by
  induction n using decimal_induction with
  | one d hd =>
    obtain ⟨-, -, -, -, hvalue⟩ := digitChar_spec hd
    refine ⟨[d], ?_, ?_⟩
    · rw [decimal_of_lt hd, List.mapM_cons, hvalue]
      rfl
    · simp [valueOf]
  | more n hn ih =>
    obtain ⟨ds, hds, hn'⟩ := ih
    obtain ⟨-, -, -, -, hvalue⟩ := digitChar_spec (show n % 10 < 10 by omega)
    refine ⟨ds ++ [n % 10], ?_, ?_⟩
    · rw [decimal_of_le hn, List.mapM_append, hds, List.mapM_cons, hvalue]
      rfl
    · rw [valueOf_concat, hn']
      omega

/-- Zeros in front of digits do not change the number. -/
theorem mapM_digitValue?_zeros (zeros n : Nat) : ∃ ds,
    (List.replicate zeros '0' ++ decimal n).mapM (digitValue? 10) = some ds ∧
      valueOf 10 0 ds = n := by
  induction zeros with
  | zero => exact mapM_digitValue?_decimal n
  | succ zeros ih =>
    obtain ⟨ds, hds, hn⟩ := ih
    have hzero : digitValue? 10 '0' = some 0 := by decide
    refine ⟨0 :: ds, ?_, hn⟩
    rw [List.replicate_succ, List.cons_append, List.mapM_cons, hzero, hds]
    rfl

theorem readDigits?_zeros (zeros n : Nat) :
    readDigits? 10 (List.replicate zeros '0' ++ decimal n) = some n := by
  obtain ⟨ds, hds, hn⟩ := mapM_digitValue?_zeros zeros n
  rw [readDigits?, if_neg (by simp [decimal_ne_nil n]), hds, Option.map_some, hn]

theorem readDigits?_decimal (n : Nat) : readDigits? 10 (decimal n) = some n :=
  readDigits?_zeros 0 n

end Text

open Text

/-! ## Numerals -/

theorem splitSign_digits {s : List Char} (h : ∀ c ∈ s, c.isDigit = true) :
    splitSign s = (false, s) := by
  unfold splitSign
  split
  · exact absurd (h '-' List.mem_cons_self) (by decide)
  · exact absurd (h '+' List.mem_cons_self) (by decide)
  · rfl

theorem readInt?_of_splitSign {s ds : List Char} {negative : Bool} {m : Nat}
    (hs : splitSign s = (negative, ds)) (hds : readDigits? 10 ds = some m) :
    readInt? s = some (if negative then -(m : Int) else m) := by
  unfold readInt?
  rw [hs]
  dsimp only
  rw [hds]
  rfl

theorem splitSign_decimalInt (n : Int) :
    splitSign (decimalInt n) = (decide (n < 0), decimal n.natAbs) := by
  cases n with
  | ofNat m => exact splitSign_digits fun c hc => isDigit_of_mem_decimal hc
  | negSucc m =>
    rw [decide_eq_true (Int.negSucc_lt_zero m)]
    rfl

/-- The signs that may stand before the digits of an integer. -/
inductive SignOf (n : Int) : List Char → Prop where
  | none (h : 0 ≤ n) : SignOf n []
  | plus (h : 0 ≤ n) : SignOf n ['+']
  | minus (h : n ≤ 0) : SignOf n ['-']

theorem SignOf.splitSign_append {n : Int} {sign s : List Char} (h : SignOf n sign)
    (hs : ∀ c ∈ s, c.isDigit = true) : ∃ negative : Bool,
      splitSign (sign ++ s) = (negative, s) ∧ (if negative then -(n.natAbs : Int) else n.natAbs) = n := by
  cases h with
  | none h => exact ⟨false, splitSign_digits hs, Int.natAbs_of_nonneg h⟩
  | plus h => exact ⟨false, rfl, Int.natAbs_of_nonneg h⟩
  | minus h =>
    refine ⟨true, rfl, ?_⟩
    rw [if_pos rfl, Int.ofNat_natAbs_of_nonpos h, Int.neg_neg]

/-- The ways to write an integer: a sign, any number of zeros, and its digits. -/
inductive IntegerSpelling (n : Int) : List Char → Prop where
  | mk {sign : List Char} (h : SignOf n sign) (zeros : Nat) :
      IntegerSpelling n (sign ++ (List.replicate zeros '0' ++ decimal n.natAbs))

namespace IntegerSpelling

variable {n : Int} {s : List Char}

theorem decimalInt (n : Int) : IntegerSpelling n (decimalInt n) := by
  cases n with
  | ofNat m => exact .mk (.none (Int.natCast_nonneg m)) 0
  | negSucc m => exact .mk (.minus (Int.negSucc_le_zero m)) 0

theorem readInt? (h : IntegerSpelling n s) : readInt? s = some n := by
  obtain ⟨hsign, zeros⟩ := h
  obtain ⟨negative, hsplit, hvalue⟩ :=
    hsign.splitSign_append (s := List.replicate zeros '0' ++ decimal n.natAbs)
      fun c => isDigit_of_mem_zeros
  rw [readInt?_of_splitSign hsplit (readDigits?_zeros zeros n.natAbs), hvalue]

theorem trim_eq_self (h : IntegerSpelling n s) : trim s = s := by
  obtain ⟨hsign, zeros⟩ := h
  refine Text.trim_eq_self fun c hc => ?_
  rcases List.mem_append.mp hc with hc | hc
  · cases hsign with
    | none => cases hc
    | plus =>
      rw [List.mem_singleton.mp hc]
      decide
    | minus =>
      rw [List.mem_singleton.mp hc]
      decide
  · exact isBlank_of_isDigit (isDigit_of_mem_zeros hc)

end IntegerSpelling

theorem Numeral.read?_decimalInt (n : Int) :
    read? (decimalInt n) = some ⟨decide (n < 0), n.natAbs, 0⟩ := by
  have hdigit : ∀ c ∈ decimal n.natAbs, c.isDigit = true := fun c => isDigit_of_mem_decimal
  have htake := takeWhile_run hdigit startsOutside_nil
  have hdrop := dropWhile_run hdigit startsOutside_nil
  rw [List.append_nil] at htake hdrop
  unfold read?
  rw [splitSign_decimalInt]
  dsimp only
  rw [htake, hdrop]
  simp only [List.append_nil, readDigits?_decimal]
  rfl

end TaskProbe
