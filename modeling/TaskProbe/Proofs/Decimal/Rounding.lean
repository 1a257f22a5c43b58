import Mathlib.Algebra.Order.Field.Basic
import Mathlib.Algebra.Order.Field.Power
import Mathlib.Algebra.Order.Ring.Rat
import Mathlib.Tactic.FieldSimp
import Mathlib.Tactic.Linarith
import Mathlib.Tactic.NormNum
import Mathlib.Tactic.Positivity
import Mathlib.Tactic.Ring
import TaskProbe.Decimal.Binary64

/-!
# Rounding

Rounding to binary64 as a relation between rational numbers (`Rounds`): the grid of a number follows
from the powers of two around it, and on that grid the nearest number is taken. The relation leaves out
that the format ends, so a larger number never rounds to a smaller one (`Rounds.mono`), and what
`ofRatio` gives is read off from it (`ofRatio_spec`): a number of the format, or none where the rounded
number is too large.
-/

namespace TaskProbe.Binary64

/-- The absolute value of a number. -/
def magnitude (x : Binary64) : ℚ := x.significand * 2 ^ x.exponent

/-- The powers of two around a number. -/
structure Log2 (q : ℚ) (k : ℤ) : Prop where
  le : 2 ^ k ≤ q
  lt : q < 2 ^ (k + 1)

/-- A nearest integer, and the even one of two. -/
structure NearestEven (q : ℚ) (m : ℕ) : Prop where
  le : q ≤ m + 1 / 2
  ge : m - 1 / 2 ≤ q
  even_of_eq : q = m + 1 / 2 ∨ q = m - 1 / 2 → m % 2 = 0

/-- A number on its grid, as if there were no greatest one. -/
structure Rounds (q : ℚ) (e : ℤ) (m : ℕ) : Prop where
  grid : ∃ k, Log2 q k ∧ e = max minExponent (k - 52)
  nearest : NearestEven (q / 2 ^ e) m

/-! ## Powers of two -/

theorem two_zpow_pos (k : ℤ) : (0 : ℚ) < 2 ^ k := zpow_pos (by norm_num) k

theorem two_zpow_add (k l : ℤ) : (2 : ℚ) ^ (k + l) = 2 ^ k * 2 ^ l := zpow_add₀ (by norm_num) k l

theorem two_zpow_lt {k l : ℤ} : (2 : ℚ) ^ k < 2 ^ l ↔ k < l := zpow_lt_zpow_iff_right₀ (by norm_num)

theorem two_zpow_le {k l : ℤ} : (2 : ℚ) ^ k ≤ 2 ^ l ↔ k ≤ l := zpow_le_zpow_iff_right₀ (by norm_num)

theorem Log2.mono {q q' : ℚ} {k k' : ℤ} (h : Log2 q k) (h' : Log2 q' k') (hq : q ≤ q') : k ≤ k' := by
  have hlt : (2 : ℚ) ^ k < 2 ^ (k' + 1) := (h.le.trans hq).trans_lt h'.lt
  exact Int.lt_add_one_iff.mp (two_zpow_lt.mp hlt)

/-! ## On one grid -/

theorem NearestEven.mono {q q' : ℚ} {m m' : ℕ} (h : NearestEven q m) (h' : NearestEven q' m')
    (hq : q ≤ q') : m ≤ m' := by
  by_contra hlt
  have hm : (m' : ℚ) + 1 ≤ m := by exact_mod_cast not_le.mp hlt
  have hge := h.ge
  have hle := h'.le
  -- both lie half way between two neighbours, which cannot both be even
  have heven := h.even_of_eq (.inr (by linarith))
  have heven' := h'.even_of_eq (.inl (by linarith))
  have hnext : (m : ℚ) = ((m' + 1 : ℕ) : ℚ) := by push_cast; linarith
  have := Nat.cast_injective hnext
  omega

/-- A remainder of less than half is dropped, one of more than half counts as a whole, and one of half
goes to the even side. -/
theorem nearestEven_roundHalfEven (num : ℕ) {den : ℕ} (hden : 0 < den) :
    NearestEven (num / den) (roundHalfEven num den) := by
  have hpos : (0 : ℚ) < den := by exact_mod_cast hden
  have hquot : (num : ℚ) / den = (num / den : ℕ) + (num % den : ℕ) / den := by
    have hnum : (num : ℚ) = den * (num / den : ℕ) + (num % den : ℕ) := by
      exact_mod_cast (Nat.div_add_mod num den).symm
    rw [div_eq_iff hpos.ne', hnum]
    field_simp
  have hlt : ((num % den : ℕ) : ℚ) / den < 1 :=
    (div_lt_one hpos).mpr (by exact_mod_cast Nat.mod_lt num hden)
  have hnonneg : 0 ≤ ((num % den : ℕ) : ℚ) / den := by positivity
  have hbelow : ((num % den : ℕ) : ℚ) / den < 1 / 2 ↔ 2 * (num % den) < den := by
    rw [div_lt_div_iff₀ hpos two_pos, one_mul, mul_comm]
    exact_mod_cast Iff.rfl
  have habove : 1 / 2 < ((num % den : ℕ) : ℚ) / den ↔ den < 2 * (num % den) := by
    rw [div_lt_div_iff₀ two_pos hpos, one_mul, mul_comm (((num % den : ℕ) : ℚ))]
    exact_mod_cast Iff.rfl
  rw [hquot]
  unfold roundHalfEven
  dsimp only
  generalize num / den = n at *
  generalize ((num % den : ℕ) : ℚ) / den = t at *
  split
  · next h =>
    have ht := hbelow.mpr h
    exact ⟨by linarith, by linarith, by rintro (heq | heq) <;> linarith⟩
  split
  · next h =>
    have ht := habove.mpr h
    refine ⟨by push_cast; linarith, by push_cast; linarith, ?_⟩
    rintro (heq | heq) <;> push_cast at heq <;> linarith
  · next h h' =>
    have ht : t = 1 / 2 := le_antisymm (not_lt.mp (mt habove.mp h')) (not_lt.mp (mt hbelow.mp h))
    rcases Nat.mod_two_eq_zero_or_one n with hn | hn
    · rw [hn]
      exact ⟨by push_cast; linarith, by push_cast; linarith, fun _ => by omega⟩
    · rw [hn]
      exact ⟨by push_cast; linarith, by push_cast; linarith, fun _ => by omega⟩

/-! ## Over all grids -/

section Rounds

variable {q q' : ℚ} {e e' : ℤ} {m m' : ℕ}

theorem Rounds.le_two_pow (h : Rounds q e m) : m ≤ 2 ^ 53 := by
  obtain ⟨⟨k, hk, he⟩, hm⟩ := h
  have hlt : q / 2 ^ e < 2 ^ (53 : ℤ) := by
    rw [div_lt_iff₀ (two_zpow_pos e), ← two_zpow_add]
    exact hk.lt.trans_le (two_zpow_le.mpr (by omega))
  by_contra hgt
  have hm53 : (2 ^ 53 + 1 : ℚ) ≤ m := by exact_mod_cast not_le.mp hgt
  have hge := hm.ge
  norm_num at hlt
  linarith

/-- Above the finest grid, numbers have all their bits. -/
theorem Rounds.two_pow_le (h : Rounds q e m) (hmin : minExponent < e) : 2 ^ 52 ≤ m := by
  obtain ⟨⟨k, hk, he⟩, hm⟩ := h
  have hge : 2 ^ (52 : ℤ) ≤ q / 2 ^ e := by
    rw [le_div_iff₀ (two_zpow_pos e), ← two_zpow_add]
    exact (two_zpow_le.mpr (by omega)).trans hk.le
  by_contra hlt
  have hm52 : (m + 1 : ℚ) ≤ 2 ^ 52 := by exact_mod_cast not_le.mp hlt
  have hle := hm.le
  norm_num at hge
  linarith

/-- **A larger number never rounds to a smaller one.** On one grid this is so for nearest integers; and
what lies on a finer grid stays below the power of two where the coarser one begins. -/
theorem Rounds.mono (h : Rounds q e m) (h' : Rounds q' e' m') (hq : q ≤ q') :
    (m : ℚ) * 2 ^ e ≤ m' * 2 ^ e' := by
  have hgrid : e ≤ e' := by
    obtain ⟨k, hk, he⟩ := h.grid
    obtain ⟨k', hk', he'⟩ := h'.grid
    have := hk.mono hk' hq
    omega
  rcases hgrid.eq_or_lt with rfl | hlt
  · have hm : m ≤ m' :=
      h.nearest.mono h'.nearest (div_le_div_of_nonneg_right hq (two_zpow_pos e).le)
    exact mul_le_mul_of_nonneg_right (by exact_mod_cast hm) (two_zpow_pos e).le
  · have hmin : minExponent < e' := by
      obtain ⟨k, -, he⟩ := h.grid
      omega
    have hm : (m : ℚ) ≤ 2 ^ (53 : ℤ) := by exact_mod_cast h.le_two_pow
    have hm' : 2 ^ (52 : ℤ) ≤ (m' : ℚ) := by exact_mod_cast h'.two_pow_le hmin
    calc (m : ℚ) * 2 ^ e ≤ 2 ^ (53 : ℤ) * 2 ^ e :=
          mul_le_mul_of_nonneg_right hm (two_zpow_pos e).le
      _ = 2 ^ (53 + e) := (two_zpow_add 53 e).symm
      _ ≤ 2 ^ (52 + e') := two_zpow_le.mpr (by omega)
      _ = 2 ^ (52 : ℤ) * 2 ^ e' := two_zpow_add 52 e'
      _ ≤ m' * 2 ^ e' := mul_le_mul_of_nonneg_right hm' (two_zpow_pos e').le

end Rounds

/-! ## Ratios -/

theorem scale2_div (num : ℕ) {den : ℕ} (hden : 0 < den) (k : ℤ) :
    0 < (scale2 num den k).2 ∧
      ((scale2 num den k).1 : ℚ) / (scale2 num den k).2 = num / den * 2 ^ k := by
  cases k with
  | ofNat k =>
    refine ⟨hden, ?_⟩
    simp only [scale2, Nat.shiftLeft_eq, Int.ofNat_eq_natCast, zpow_natCast]
    push_cast
    ring
  | negSucc k =>
    have hpow : 0 < 2 ^ (k + 1) := by positivity
    refine ⟨by simp only [scale2, Nat.shiftLeft_eq]; positivity, ?_⟩
    simp only [scale2, Nat.shiftLeft_eq, zpow_negSucc]
    push_cast
    field_simp

/-- The number of bits of a numerator and a denominator leave two powers, between which one comparison
decides. -/
theorem log2_floorLog2 {num den : ℕ} (hnum : num ≠ 0) (hden : den ≠ 0) :
    Log2 (num / den) (floorLog2 num den) := by
  have hpos : (0 : ℚ) < den := by exact_mod_cast Nat.pos_of_ne_zero hden
  obtain ⟨a, ha⟩ : ∃ a, num.log2 = a := ⟨_, rfl⟩
  obtain ⟨b, hb⟩ : ∃ b, den.log2 = b := ⟨_, rfl⟩
  have hnum_ge : (2 : ℚ) ^ (a : ℤ) ≤ num := by exact_mod_cast ha ▸ Nat.log2_self_le hnum
  have hnum_lt : (num : ℚ) < 2 ^ ((a : ℤ) + 1) := by exact_mod_cast ha ▸ Nat.lt_log2_self
  have hden_ge : (2 : ℚ) ^ (b : ℤ) ≤ den := by exact_mod_cast hb ▸ Nat.log2_self_le hden
  have hden_lt : (den : ℚ) < 2 ^ ((b : ℤ) + 1) := by exact_mod_cast hb ▸ Nat.lt_log2_self
  have hlower : (2 : ℚ) ^ ((a : ℤ) - b - 1) ≤ num / den := by
    rw [le_div_iff₀ hpos]
    calc (2 : ℚ) ^ ((a : ℤ) - b - 1) * den ≤ 2 ^ ((a : ℤ) - b - 1) * 2 ^ ((b : ℤ) + 1) :=
          mul_le_mul_of_nonneg_left hden_lt.le (two_zpow_pos _).le
      _ = 2 ^ (a : ℤ) := by rw [← two_zpow_add]; congr 1; omega
      _ ≤ num := hnum_ge
  have hupper : (num : ℚ) / den < 2 ^ ((a : ℤ) - b + 1) := by
    rw [div_lt_iff₀ hpos]
    calc (num : ℚ) < 2 ^ ((a : ℤ) + 1) := hnum_lt
      _ = 2 ^ ((a : ℤ) - b + 1) * 2 ^ (b : ℤ) := by rw [← two_zpow_add]; congr 1; omega
      _ ≤ 2 ^ ((a : ℤ) - b + 1) * den := mul_le_mul_of_nonneg_left hden_ge (two_zpow_pos _).le
  -- the comparison is one with `2 ^ (a - b)`
  obtain ⟨hscale, hquot⟩ := scale2_div num (Nat.pos_of_ne_zero hden) (-((a : ℤ) - b))
  have hcompare : (scale2 num den (-((a : ℤ) - b))).1 < (scale2 num den (-((a : ℤ) - b))).2 ↔
      (num : ℚ) / den < 2 ^ ((a : ℤ) - b) := by
    rw [← Nat.cast_lt (α := ℚ), ← div_lt_one (by exact_mod_cast hscale), hquot, zpow_neg,
      ← div_eq_mul_inv, div_lt_one (two_zpow_pos _)]
  unfold floorLog2
  rw [ha, hb]
  dsimp only
  split
  · next h => exact ⟨hlower, by rw [sub_add_cancel]; exact hcompare.mp h⟩
  · next h => exact ⟨not_lt.mp (mt hcompare.mpr h), hupper⟩

/-- How `ofRatio` rounds, before it looks whether the result is too large. -/
theorem rounds_roundHalfEven {num den : ℕ} (hnum : num ≠ 0) (hden : den ≠ 0) :
    let e := max minExponent (floorLog2 num den - 52)
    Rounds (num / den) e (roundHalfEven (scale2 num den (-e)).1 (scale2 num den (-e)).2) := by
  intro e
  obtain ⟨hscale, hquot⟩ := scale2_div num (Nat.pos_of_ne_zero hden) (-e)
  refine ⟨⟨_, log2_floorLog2 hnum hden, rfl⟩, ?_⟩
  have hnearest := nearestEven_roundHalfEven (scale2 num den (-e)).1 hscale
  rwa [hquot, zpow_neg, ← div_eq_mul_inv] at hnearest

/-! ## Numbers of the format -/

theorem lt_two_pow_of_le {m : ℕ} {e : ℤ} (hm : m < 2 ^ 53) (he : e ≤ maxExponent) :
    (m : ℚ) * 2 ^ e < 2 ^ (1024 : ℤ) := by
  have hm' : (m : ℚ) < 2 ^ (53 : ℤ) := by exact_mod_cast hm
  calc (m : ℚ) * 2 ^ e < 2 ^ (53 : ℤ) * 2 ^ e := mul_lt_mul_of_pos_right hm' (two_zpow_pos e)
    _ = 2 ^ (53 + e) := (two_zpow_add 53 e).symm
    _ ≤ 2 ^ (1024 : ℤ) := two_zpow_le.mpr (by simp only [maxExponent] at he; omega)

theorem two_pow_le_of_lt {m : ℕ} {e : ℤ} (hm : 2 ^ 52 ≤ m) (he : maxExponent < e) :
    2 ^ (1024 : ℤ) ≤ (m : ℚ) * 2 ^ e := by
  have hm' : 2 ^ (52 : ℤ) ≤ (m : ℚ) := by exact_mod_cast hm
  calc (2 : ℚ) ^ (1024 : ℤ) ≤ 2 ^ (52 + e) :=
        two_zpow_le.mpr (by simp only [maxExponent] at he; omega)
    _ = 2 ^ (52 : ℤ) * 2 ^ e := two_zpow_add 52 e
    _ ≤ m * 2 ^ e := mul_le_mul_of_nonneg_right hm' (two_zpow_pos e).le

/-- What becomes of a ratio: it is rounded, and the result is a number of the format unless it is too
large for one. -/
theorem ofRatio_spec (negative : Bool) {num den : ℕ} (hnum : num ≠ 0) (hden : den ≠ 0) :
    ∃ e m, Rounds (num / den) e m ∧
      ((∃ x, ofRatio negative num den = some x ∧ x.negative = negative ∧
          x.magnitude = m * 2 ^ e ∧ x.magnitude < 2 ^ (1024 : ℤ)) ∨
        ofRatio negative num den = none ∧ (2 : ℚ) ^ (1024 : ℤ) ≤ m * 2 ^ e) := by
  have hrounds := rounds_roundHalfEven hnum hden
  refine ⟨_, _, hrounds, ?_⟩
  unfold ofRatio
  rw [if_neg hnum]
  dsimp only at hrounds ⊢
  generalize max minExponent (floorLog2 num den - 52) = e at *
  generalize roundHalfEven (scale2 num den (-e)).1 (scale2 num den (-e)).2 = m at *
  have hle := hrounds.le_two_pow
  have hge := hrounds.two_pow_le
  by_cases hcarry : m = 2 * leastNormal
  · -- all bits are rounded up, which gives the next power of two
    have hvalue : (m : ℚ) * 2 ^ e = leastNormal * 2 ^ (e + 1) := by
      rw [hcarry, two_zpow_add]
      push_cast
      ring
    rw [if_pos hcarry, hvalue]
    dsimp only
    by_cases hmax : maxExponent < e + 1
    · rw [if_pos hmax]
      exact .inr ⟨rfl, two_pow_le_of_lt (by decide) hmax⟩
    · rw [if_neg hmax]
      have hlt : leastNormal < 2 ^ 53 := by decide
      exact .inl ⟨_, rfl, rfl, rfl, lt_two_pow_of_le hlt (not_lt.mp hmax)⟩
  · rw [if_neg hcarry]
    dsimp only
    by_cases hmax : maxExponent < e
    · rw [if_pos hmax]
      exact .inr ⟨rfl, two_pow_le_of_lt (hge (lt_trans (by decide) hmax)) hmax⟩
    · rw [if_neg hmax]
      have hlt : m < 2 ^ 53 := lt_of_le_of_ne hle hcarry
      exact .inl ⟨_, rfl, rfl, rfl, lt_two_pow_of_le hlt (not_lt.mp hmax)⟩

/-- The magnitude of a number is `q`, rounded. -/
def IsRounded (q : ℚ) (x : Binary64) : Prop :=
  (q = 0 ∧ x.magnitude = 0) ∨ ∃ e m, Rounds q e m ∧ x.magnitude = m * 2 ^ e

theorem magnitude_nonneg (x : Binary64) : 0 ≤ x.magnitude := by
  unfold magnitude
  have := two_zpow_pos x.exponent
  positivity

theorem Rounds.pos {q : ℚ} {e : ℤ} {m : ℕ} (h : Rounds q e m) : 0 < q := by
  obtain ⟨k, hk, -⟩ := h.grid
  exact (two_zpow_pos k).trans_le hk.le

theorem IsRounded.mono {q q' : ℚ} {x x' : Binary64} (h : IsRounded q x) (h' : IsRounded q' x')
    (hq : q ≤ q') : x.magnitude ≤ x'.magnitude := by
  rcases h with ⟨rfl, hx⟩ | ⟨e, m, hm, hx⟩
  · exact hx ▸ x'.magnitude_nonneg
  rcases h' with ⟨rfl, -⟩ | ⟨e', m', hm', hx'⟩
  · exact absurd hq (not_le.mpr hm.pos)
  · rw [hx, hx']
    exact hm.mono hm' hq

/-- Above the numbers that have all their bits, everything is rounded to an integer. -/
theorem IsRounded.exists_nat {q : ℚ} {x : Binary64} (h : IsRounded q x) (hq : 2 ^ 52 ≤ q) :
    ∃ n : ℕ, x.magnitude = n := by
  rcases h with ⟨rfl, hx⟩ | ⟨e, m, hm, hx⟩
  · exact ⟨0, by rw [hx, Nat.cast_zero]⟩
  · obtain ⟨k, hk, he⟩ := hm.grid
    have hlog : (52 : ℤ) < k + 1 := by
      refine two_zpow_lt.mp (lt_of_le_of_lt ?_ hk.lt)
      exact_mod_cast hq
    obtain ⟨n, rfl⟩ : ∃ n : ℕ, e = n := ⟨e.toNat, by omega⟩
    exact ⟨m * 2 ^ n, by rw [hx]; push_cast; rw [zpow_natCast]⟩

theorem isRounded_of_ofRatio {negative : Bool} {num den : ℕ} {x : Binary64} (hden : den ≠ 0)
    (h : ofRatio negative num den = some x) :
    IsRounded (num / den) x ∧ x.negative = negative := by
  by_cases hnum : num = 0
  · subst hnum
    cases h
    exact ⟨.inl ⟨by simp, by simp [magnitude, zero]⟩, rfl⟩
  · obtain ⟨e, m, hm, ⟨x', hx', hsign, hvalue, -⟩ | ⟨hnone, -⟩⟩ := ofRatio_spec negative hnum hden
    · cases h.symm.trans hx'
      exact ⟨.inr ⟨e, m, hm, hvalue⟩, hsign⟩
    · cases h.symm.trans hnone

/-- What is greater than something too large is too large. -/
theorem ofRatio_eq_none_of_le {negative negative' : Bool} {num den num' den' : ℕ} (hden : den ≠ 0)
    (hden' : den' ≠ 0) (hle : (num : ℚ) / den ≤ num' / den')
    (h : ofRatio negative num den = none) : ofRatio negative' num' den' = none := by
  have hnum : num ≠ 0 := by
    rintro rfl
    cases h
  obtain ⟨e, m, hm, ⟨x, hx, -⟩ | ⟨-, hlimit⟩⟩ := ofRatio_spec negative hnum hden
  · cases h.symm.trans hx
  have hnum' : num' ≠ 0 := by
    rintro rfl
    have := hm.pos.trans_le hle
    simp at this
  obtain ⟨e', m', hm', ⟨x, -, -, hvalue, hlt⟩ | ⟨hnone, -⟩⟩ := ofRatio_spec negative' hnum' hden'
  · exact absurd (hvalue ▸ hlt) (not_lt.mpr (hlimit.trans (hm.mono hm' hle)))
  · exact hnone

/-! ## Products and integers -/

theorem ratio_spec (x : Binary64) : 0 < x.ratio.2 ∧ (x.ratio.1 : ℚ) / x.ratio.2 = x.magnitude := by
  obtain ⟨hden, hquot⟩ := scale2_div x.significand one_pos x.exponent
  refine ⟨hden, hquot.trans ?_⟩
  rw [Nat.cast_one, div_one, magnitude]

theorem isRounded_of_mul {x y z : Binary64} (h : x.mul y = some z) :
    IsRounded (x.magnitude * y.magnitude) z ∧ z.negative = (x.negative != y.negative) := by
  obtain ⟨hx, hxq⟩ := x.ratio_spec
  obtain ⟨hy, hyq⟩ := y.ratio_spec
  have hratio : ofRatio (x.negative != y.negative) (x.ratio.1 * y.ratio.1)
      (x.ratio.2 * y.ratio.2) = some z := h
  have hrounded := isRounded_of_ofRatio (Nat.mul_pos hx hy).ne' hratio
  rwa [Nat.cast_mul, Nat.cast_mul, mul_div_mul_comm, hxq, hyq] at hrounded

theorem toInt?_of_magnitude {x : Binary64} {n : ℕ} (h : x.magnitude = n) :
    x.toInt? = some (if x.negative then -(n : ℤ) else n) := by
  obtain ⟨hden, hquot⟩ := x.ratio_spec
  have hpos : (0 : ℚ) < x.ratio.2 := by exact_mod_cast hden
  have hnum : x.ratio.1 = n * x.ratio.2 := by
    rw [h, div_eq_iff hpos.ne'] at hquot
    exact_mod_cast hquot
  unfold toInt?
  dsimp only
  rw [hnum, Nat.mul_mod_left, if_pos rfl, Nat.mul_div_cancel _ hden]

/-! ## Integers -/

theorem isRounded_of_nat {negative : Bool} {n : ℕ} {x : Binary64}
    (h : ofRatio negative n 1 = some x) : IsRounded n x ∧ x.negative = negative := by
  have hx := isRounded_of_ofRatio one_ne_zero h
  rwa [Nat.cast_one, div_one] at hx

theorem ofRatio_eq_none_mono {negative negative' : Bool} {n m : ℕ} (hle : n ≤ m)
    (h : ofRatio negative n 1 = none) : ofRatio negative' m 1 = none := by
  refine ofRatio_eq_none_of_le one_ne_zero one_ne_zero ?_ h
  rw [Nat.cast_one, div_one, div_one]
  exact Nat.cast_le.mpr hle

/-- Where the format ends for integers: half way from its greatest number to the next power of two. -/
@[irreducible]
def tooLarge : ℕ := 2 ^ 1024 - 2 ^ 970

theorem ofRatio_eq_none_iff (negative : Bool) (n : ℕ) :
    ofRatio negative n 1 = none ↔ tooLarge ≤ n := by
  have hlast : ofRatio false (tooLarge - 1) 1 ≠ none := by decide +kernel
  have hfirst : ofRatio false tooLarge 1 = none := by decide +kernel
  constructor
  · intro h
    by_contra hlt
    exact hlast (ofRatio_eq_none_mono (Nat.le_sub_one_of_lt (not_le.mp hlt)) h)
  · exact fun h => ofRatio_eq_none_mono h hfirst

/-- A number is at least what a smaller integer is rounded to. -/
theorem IsRounded.ge {n m : ℕ} {e : ℤ} {q : ℚ} {x : Binary64} (h : IsRounded q x)
    (heval : ofRatio false n 1 = some ⟨false, m, e⟩) (hq : n ≤ q) : m * 2 ^ e ≤ x.magnitude :=
  (isRounded_of_nat heval).1.mono h hq

theorem IsRounded.le {n m : ℕ} {e : ℤ} {q : ℚ} {x : Binary64} (h : IsRounded q x)
    (heval : ofRatio false n 1 = some ⟨false, m, e⟩) (hq : q ≤ n) : x.magnitude ≤ m * 2 ^ e :=
  h.mono (isRounded_of_nat heval).1 hq

end TaskProbe.Binary64
