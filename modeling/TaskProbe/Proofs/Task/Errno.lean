import TaskProbe.Proofs.Decimal.Rounding
import TaskProbe.Proofs.Json.WideIntegers
import TaskProbe.Proofs.Text.Trimming
import TaskProbe.Task.ServerError

/-!
# Codes out of range

What is made of a code that no signed integer of 64 bits holds. As a number it is rounded to binary64,
and if that gives `2 ^ 63` the code is the bound of its side; this happens up to `2 ^ 63 + 1024`, and
beyond it the code is unreadable (`errno_of_wide_integer`). As a text it is the bound of its side as
long as there is a finite binary64 number for it, so that the two forms of a code agree up to the same
number only (`errno_forms_agree_iff`).
-/

namespace TaskProbe

namespace Binary64

/-! ## Around the bound -/

/-- From `2 ^ 63` on, the next number is `2 ^ 63 + 2048`, and what lies half way goes to the even one. -/
theorem IsRounded.near_bound {a : ℕ} {x : Binary64} (h : IsRounded a x) (ha : 2 ^ 63 ≤ a) :
    ∃ n : ℕ, x.magnitude = n ∧ 2 ^ 63 ≤ n ∧ (a ≤ 2 ^ 63 + 1024 → n = 2 ^ 63) ∧
      (2 ^ 63 + 1024 < a → 2 ^ 63 + 1024 < n) := by
  have hbound : ofRatio false (2 ^ 63) 1 = some ⟨false, 2 ^ 52, 11⟩ := by decide
  have hhalf : ofRatio false (2 ^ 63 + 1024) 1 = some ⟨false, 2 ^ 52, 11⟩ := by decide
  have hnext : ofRatio false (2 ^ 63 + 1025) 1 = some ⟨false, 2 ^ 52 + 1, 11⟩ := by decide
  obtain ⟨n, hn⟩ := h.exists_nat (by exact_mod_cast (by omega : 2 ^ 52 ≤ a))
  have hge := h.ge hbound (by exact_mod_cast ha)
  refine ⟨n, hn, ?_, fun hle => ?_, fun hlt => ?_⟩
  · rw [hn] at hge
    norm_num at hge
    exact_mod_cast hge
  · have hle := h.le hhalf (by exact_mod_cast hle)
    rw [hn] at hge hle
    norm_num at hge hle
    exact_mod_cast le_antisymm hle hge
  · have hge := h.ge hnext (by exact_mod_cast hlt)
    rw [hn] at hge
    norm_num at hge
    omega

end Binary64

namespace ServerError

open Text Binary64

/-! ## Codes given as floating point numbers -/

/-- The bound of the side on which a number lies. -/
def boundOf (negative : Bool) : Int := if negative then minInt64 else maxInt64

theorem isInt64_iff {n : Int} : isInt64 n = true ↔ minInt64 ≤ n ∧ n ≤ maxInt64 := by
  simp [isInt64]

theorem isInt64_eq_false_iff {n : Int} : isInt64 n = false ↔ n < minInt64 ∨ maxInt64 < n := by
  rw [← Bool.not_eq_true, isInt64_iff]
  omega

theorem clampInt64_of_outside {n : Int} (hn : n < minInt64 ∨ maxInt64 < n) :
    clampInt64 n = boundOf (decide (n < 0)) := by
  simp only [clampInt64, boundOf, minInt64, maxInt64, decide_eq_true_eq] at *
  split <;> omega

theorem clampInt64_of_le {n : ℕ} (h : 2 ^ 63 ≤ n) (negative : Bool) :
    clampInt64 (if negative then -(n : ℤ) else n) = boundOf negative := by
  cases negative with
  | false =>
    show max minInt64 (min maxInt64 (n : ℤ)) = maxInt64
    simp only [minInt64, maxInt64]
    omega
  | true =>
    show max minInt64 (min maxInt64 (-(n : ℤ))) = minInt64
    simp only [minInt64, maxInt64]
    omega

theorem codeOfFloat?_of_magnitude {x : Binary64} {n : ℕ} (h : x.magnitude = n) (hn : 2 ^ 63 ≤ n) :
    codeOfFloat? x = if n ≤ 2 ^ 63 then some (boundOf x.negative) else none := by
  have hclamp := clampInt64_of_le hn x.negative
  unfold codeOfFloat?
  rw [toInt?_of_magnitude h]
  dsimp only
  rw [hclamp]
  refine if_congr ?_ rfl rfl
  cases x.negative <;> simp [minInt64]

/-- A number that is rounded once. -/
theorem codeOfFloat?_of_isRounded {a : ℕ} {x : Binary64} (h : IsRounded a x) (ha : 2 ^ 63 ≤ a) :
    codeOfFloat? x = if a ≤ 2 ^ 63 + 1024 then some (boundOf x.negative) else none := by
  obtain ⟨n, hn, hge, hle, hlt⟩ := h.near_bound ha
  rw [codeOfFloat?_of_magnitude hn hge]
  exact if_congr (by omega) rfl rfl

/-! ## Codes given as integers -/

theorem one_le_magnitude {v : ℕ} {x : Binary64} (h : IsRounded v x) (hv : v ≠ 0) :
    1 ≤ x.magnitude := by
  have heval : ofRatio false 1 1 = some ⟨false, 2 ^ 52, -52⟩ := by decide
  have hge := h.ge heval (by exact_mod_cast Nat.pos_of_ne_zero hv)
  norm_num at hge
  exact hge

/-- Where the format ends, seen from the powers of ten that the readers know. -/
theorem tooLarge_between :
    10 ^ Json.greatestPower < tooLarge ∧ tooLarge ≤ 10 ^ Numeral.extreme.toNat := by
  decide +kernel

theorem isRounded_powerOfTen {k : ℕ} (hk : k ≤ Json.greatestPower) :
    IsRounded (10 ^ k : ℕ) (Json.powerOfTen k) := by
  unfold Json.powerOfTen
  cases h : ofRatio false (Nat.pow 10 k) 1 with
  | none =>
    have hle : 10 ^ k ≤ 10 ^ Json.greatestPower := pow_le_pow_right₀ (by decide) hk
    have hlarge : tooLarge ≤ 10 ^ k := (ofRatio_eq_none_iff _ _).mp h
    exact absurd (hlarge.trans hle) (not_le.mpr tooLarge_between.1)
  | some x => exact (isRounded_of_nat h).1

/-- A number that is read from some digits and a count of others is rounded twice. -/
theorem isRounded_of_scaled? {v k : ℕ} {z : Binary64} (hv : v ≠ 0)
    (h : Json.scaled? v k = some z) : k ≤ Json.greatestPower ∧ ∃ x, IsRounded v x ∧
      IsRounded (x.magnitude * (Json.powerOfTen k).magnitude) z := by
  unfold Json.scaled? at h
  obtain ⟨x, hx, hz⟩ := Option.bind_eq_some_iff.mp h
  have hrounded := (isRounded_of_nat hx).1
  change (if k ≤ Json.greatestPower then x.mul (Json.powerOfTen k)
    else if x.isZero then some x else none) = some z at hz
  by_cases hk : k ≤ Json.greatestPower
  · rw [if_pos hk] at hz
    exact ⟨hk, x, hrounded, (isRounded_of_mul hz).1⟩
  · -- zero is not rounded from anything else
    have hnonzero : x.isZero ≠ true := by
      intro hzero
      have hone := one_le_magnitude hrounded hv
      rw [magnitude, beq_iff_eq.mp hzero, Nat.cast_zero, zero_mul] at hone
      norm_num at hone
    rw [if_neg hk, if_neg hnonzero] at hz
    cases hz

/-- If no digit is left, the second rounding finds nothing to round. -/
theorem isRounded_of_scaled?_zero {v : ℕ} {z : Binary64} (hv : v ≠ 0)
    (h : Json.scaled? v (0 : ℕ) = some z) : ∃ x, IsRounded v x ∧ IsRounded x.magnitude z := by
  obtain ⟨-, x, hx, hz⟩ := isRounded_of_scaled? hv h
  have hone : Json.powerOfTen 0 = ⟨false, 2 ^ 52, -52⟩ := by decide
  have hpower : (Json.powerOfTen 0).magnitude = 1 := by
    rw [hone, magnitude]
    norm_num
  rw [hpower, mul_one] at hz
  exact ⟨x, hx, hz⟩

/-- If digits are left, the number is far beyond the bound, however it was rounded. -/
theorem lt_magnitude_of_scaled?_succ {v k : ℕ} {z : Binary64} (hv : maxUInt64 < v * 10 + 10)
    (h : Json.scaled? v (k + 1 : ℕ) = some z) : ∃ m : ℕ, z.magnitude = m ∧ 2 ^ 63 < m := by
  have hvalue : ofRatio false (2 ^ 60) 1 = some ⟨false, 2 ^ 52, 8⟩ := by decide
  have hten : ofRatio false 10 1 = some ⟨false, 10 * 2 ^ 49, -49⟩ := by decide
  have hnext : ofRatio false (2 ^ 63 + 2048) 1 = some ⟨false, 2 ^ 52 + 1, 11⟩ := by decide
  have hv' : 2 ^ 60 ≤ v := by
    simp only [maxUInt64] at hv
    omega
  obtain ⟨hk, x, hx, hz⟩ := isRounded_of_scaled? (by omega) h
  have hxge := hx.ge hvalue (by exact_mod_cast hv')
  have hpge := (isRounded_powerOfTen hk).ge hten (by exact_mod_cast Nat.le_self_pow (by omega) 10)
  norm_num at hxge hpge
  have hproduct : 2 ^ 60 * 10 ≤ x.magnitude * (Json.powerOfTen (k + 1)).magnitude :=
    mul_le_mul (by norm_num; exact hxge) hpge (by norm_num) x.magnitude_nonneg
  have hzge := hz.ge hnext (le_trans (by norm_num) hproduct)
  obtain ⟨m, hm⟩ := hz.exists_nat (le_trans (by norm_num) hproduct)
  rw [hm] at hzge
  norm_num at hzge
  exact ⟨m, hm, by omega⟩

theorem codeOfFloat?_of_taken {n v k : ℕ} {z : Binary64} (hn : 2 ^ 63 ≤ n)
    (ht : Json.Taken n v k) (h : Json.scaled? v k = some z) (negative : Bool) :
    codeOfFloat? { z with negative }
      = if n ≤ 2 ^ 63 + 1024 then some (boundOf negative) else none := by
  cases ht with
  | all =>
    obtain ⟨x, hx, hz⟩ := isRounded_of_scaled?_zero (by omega) h
    obtain ⟨m, hm, hge, hle, hlt⟩ := hx.near_bound hn
    have hrounded : IsRounded m { z with negative } := hm ▸ hz
    rw [codeOfFloat?_of_isRounded hrounded hge]
    exact if_congr (by omega) rfl rfl
  | some hwide hv =>
    obtain ⟨m, hm, hlt⟩ := lt_magnitude_of_scaled?_succ hv h
    have hmagnitude : ({ z with negative } : Binary64).magnitude = m := hm
    simp only [maxUInt64] at hwide
    rw [codeOfFloat?_of_magnitude hmagnitude hlt.le, if_neg (by omega), if_neg (by omega)]

theorem le_natAbs_of_outside {n : Int} (hn : n < minInt64 ∨ maxInt64 < n) :
    2 ^ 63 ≤ n.natAbs := by
  simp only [minInt64, maxInt64] at hn
  omega

/-- The code that an integer out of range is taken for. -/
theorem code?_of_parse {n : Int} (hn : n < minInt64 ∨ maxInt64 < n) {raw : Json.Value}
    (h : Json.parse (Utf8.encode (decimalInt n)) = .ok raw) :
    code? raw = if n.natAbs ≤ 2 ^ 63 + 1024 then some (clampInt64 n) else none := by
  have hbound := le_natAbs_of_outside hn
  rw [clampInt64_of_outside hn]
  rcases Json.parse_decimalInt h with ⟨hmin, hmax, rfl⟩ | ⟨-, v, k, z, htaken, hz, rfl⟩
  · -- it is an unsigned integer, which is rounded as it is
    have hfinite : ofRatio false maxUInt64 1 ≠ none := by decide
    show (if isInt64 n then some n
      else (ofRatio (decide (n < 0)) n.natAbs 1).bind codeOfFloat?) = _
    rw [isInt64_eq_false_iff.mpr hn, if_neg Bool.false_ne_true]
    cases hx : ofRatio (decide (n < 0)) n.natAbs 1 with
    | none =>
      have hle : n.natAbs ≤ maxUInt64 := by
        simp only [minInt64, maxUInt64] at hmin hmax ⊢
        omega
      exact absurd (ofRatio_eq_none_mono hle hx) hfinite
    | some x =>
      obtain ⟨hrounded, hsign⟩ := isRounded_of_nat hx
      rw [Option.bind_some, codeOfFloat?_of_isRounded hrounded hbound, hsign]
  · exact codeOfFloat?_of_taken hbound htaken hz _

/-! ## Codes given as texts -/

/-- A text is read as the integer that is written in it, if 64 bits hold this integer. -/
theorem codeOfText?_of_spelling {n : Int} (h : isInt64 n = true) {before word after : List Char}
    (hword : IntegerSpelling n word) (hbefore : isAllBlank before = true)
    (hafter : isAllBlank after = true) :
    codeOfText? (before ++ (word ++ after)) = some n := by
  unfold codeOfText?
  dsimp only
  rw [trim_around word hbefore hafter, hword.trim_eq_self, hword.readInt?, Option.filter_some,
    if_pos h]

theorem codeOfText?_of_isInt64 {n : Int} (h : isInt64 n = true) :
    codeOfText? (decimalInt n) = some n := by
  have hempty : isAllBlank [] = true := rfl
  have hread := codeOfText?_of_spelling h (.decimalInt n) hempty hempty
  rwa [List.nil_append, List.append_nil] at hread

/-- The text of an integer has the binary64 number that the integer is rounded to. -/
theorem toBinary64?_of_integer (negative : Bool) {n : ℕ} (hn : n ≠ 0) :
    (Numeral.mk negative n 0).toBinary64? = ofRatio negative n 1 := by
  have hsize : ¬ (n = 0 ∨ (0 : ℤ) + (decimal n).length < -Numeral.extreme) := by
    simp only [Numeral.extreme]
    omega
  unfold Numeral.toBinary64?
  dsimp only
  rw [if_neg hsize]
  by_cases hdigits : Numeral.extreme < (0 : ℤ) + (decimal n).length
  · -- so many digits are too many
    have hlength : Numeral.extreme.toNat ≤ (decimal n).length - 1 := by omega
    have hge : 10 ^ Numeral.extreme.toNat ≤ n :=
      (Nat.pow_le_pow_right (by decide) hlength).trans (pow_length_decimal_le hn)
    rw [if_pos hdigits, (ofRatio_eq_none_iff _ _).mpr (tooLarge_between.2.trans hge)]
  · rw [if_neg hdigits]
    exact congrArg (ofRatio negative · 1) (mul_one n)

theorem codeOfText?_of_outside {n : Int} (hn : n < minInt64 ∨ maxInt64 < n) :
    codeOfText? (decimalInt n) = if n.natAbs < tooLarge then some (clampInt64 n) else none := by
  have hbound := le_natAbs_of_outside hn
  have hfilter : (readInt? (decimalInt n)).filter isInt64 = none := by
    rw [(IntegerSpelling.decimalInt n).readInt?, Option.filter_some, isInt64_eq_false_iff.mpr hn,
      if_neg Bool.false_ne_true]
  unfold codeOfText?
  dsimp only
  rw [(IntegerSpelling.decimalInt n).trim_eq_self, hfilter, Numeral.read?_decimalInt]
  dsimp only
  rw [Option.bind_some, toBinary64?_of_integer _ (by omega)]
  cases hx : ofRatio (decide (n < 0)) n.natAbs 1 with
  | none => rw [if_neg (not_lt.mpr ((ofRatio_eq_none_iff _ _).mp hx)), Option.bind_none]
  | some x =>
    have hlt : n.natAbs < tooLarge := by
      refine not_le.mp fun hle => ?_
      rw [(ofRatio_eq_none_iff _ _).mpr hle] at hx
      cases hx
    obtain ⟨hrounded, hsign⟩ := isRounded_of_nat hx
    obtain ⟨m, hm, hge, -⟩ := hrounded.near_bound hbound
    rw [if_pos hlt, clampInt64_of_outside hn, Option.bind_some, toInt?_of_magnitude hm,
      Option.map_some, clampInt64_of_le hge, hsign]

/-! ## Bodies with a code -/

/-- The text of a body with a code and nothing else. -/
def bodyOfCode (code : List Char) : List UInt8 :=
  Utf8.encode ("\x7b\"errno\":".toList ++ code ++ "\x7d".toList)

theorem spelling_natural {n : Nat} (h : n ≤ maxUInt64) :
    Json.Spelling (.number (.int n)) (Utf8.encode (decimalInt n)) :=
  .int ((by decide : minInt64 ≤ 0).trans (Int.natCast_nonneg n)) (Int.ofNat_le.mpr h)

theorem parse_natural {n : Nat} (h : n ≤ maxUInt64) :
    Json.parse (Utf8.encode (decimalInt n)) = .ok (.number (.int n)) := by
  have hparse := Json.parse_of_spelling (spelling_natural h) (Nat.zero_le _) Json.isGap_nil
    Json.isGap_nil
  rwa [List.nil_append, List.append_nil] at hparse

theorem parse_bodyOfCode {v : Json.Value} {code : List Char}
    (h : Json.Spelling v (Utf8.encode code)) (hd : v.depth ≤ 126) :
    Json.parse (bodyOfCode code) = .ok (.object [("errno", v)]) := by
  have hkey : Json.StringSpelling "errno".toList (Utf8.encode "errno".toList) :=
    Json.stringSpelling_plain (by decide)
  have hfield := Json.FieldSpelling.mk hkey Json.isGap_nil Json.isGap_nil h
  have hbody := Json.Spelling.fields (List.pairwise_singleton _ _) (List.Perm.refl _)
    Json.isGap_nil (Json.Listed.last hfield Json.isGap_nil)
  have hdepth : (Json.Value.object [("errno", v)]).depth ≤ Json.maxDepth := by
    simp only [Json.Value.depth, Json.depthOfFields, Json.maxDepth]
    omega
  have hparse := Json.parse_of_spelling hbody hdepth Json.isGap_nil Json.isGap_nil
  have hopen : Utf8.encode "\x7b\"errno\":".toList = Json.Byte.openBrace :: Json.Byte.quote ::
      (Utf8.encode "errno".toList ++ [Json.Byte.quote, Json.Byte.colon]) := by decide
  have hclose : Utf8.encode "\x7d".toList = [Json.Byte.closeBrace] := by decide
  rw [bodyOfCode, Utf8.encode_append, Utf8.encode_append, hopen, hclose]
  simpa using hparse

/-! ## What a reply reports -/

/-- A code other than zero is reported. -/
theorem ofBody_of_lookup {fields : List (String × Json.Value)} {raw : Json.Value}
    (h : Keyed.lookup "errno" fields = some raw) : ofBody (.object fields)
      = (code? raw).bind fun code => if code = 0 then none else some ⟨code, textFor code fields⟩ := by
  unfold ofBody report
  dsimp only
  rw [h]
  dsimp only
  cases code? raw with
  | none => rfl
  | some code =>
    dsimp only
    rw [Option.bind_some]
    by_cases hzero : code = 0
    · rw [if_pos hzero, if_pos hzero]
    · rw [if_neg hzero, if_neg hzero]

theorem clampInt64_ne_zero {n : Int} (hn : n < minInt64 ∨ maxInt64 < n) : clampInt64 n ≠ 0 := by
  rw [clampInt64_of_outside hn, boundOf]
  split <;> decide

/-- **What is reported for a code out of range.** A reply whose code is written as an integer that no
signed one of 64 bits holds is taken to report the bound of its side, as long as the integer rounds to
`2 ^ 63`, and else to report nothing. -/
theorem errno_of_wide_integer {n : Int} (hn : n < minInt64 ∨ maxInt64 < n) {raw : Json.Value}
    (hraw : Json.parse (Utf8.encode (decimalInt n)) = .ok raw)
    {fields : List (String × Json.Value)} (h : Keyed.lookup "errno" fields = some raw) :
    ofBody (.object fields) = if n.natAbs ≤ 2 ^ 63 + 1024 then
      some ⟨clampInt64 n, textFor (clampInt64 n) fields⟩ else none := by
  rw [ofBody_of_lookup h, code?_of_parse hn hraw]
  split
  · rw [Option.bind_some, if_neg (clampInt64_ne_zero hn)]
  · rfl

/-- The first integer that rounds to more than `2 ^ 63` is not reported. -/
theorem errno_of_wide_integer_unread :
    ofBody (.object [("errno", .number (.int (2 ^ 63 + 1025 : Nat)))]) = none :=
  (errno_of_wide_integer (n := (2 ^ 63 + 1025 : Nat)) (.inr (by decide))
    (parse_natural (by decide)) rfl).trans (if_neg (by decide))

/-- The first integer out of range is reported as the last one within. -/
theorem errno_of_wide_integer_clamped :
    Json.parse (bodyOfCode (decimalInt (2 ^ 63 : Nat)))
        = .ok (.object [("errno", .number (.int (2 ^ 63 : Nat)))]) ∧
      ofBody (.object [("errno", .number (.int (2 ^ 63 : Nat)))]) = some ⟨2 ^ 63 - 1, ""⟩ := by
  refine ⟨parse_bodyOfCode (spelling_natural (by decide)) (Nat.zero_le _), ?_⟩
  decide

theorem code?_of_isInt64 {n : Int} (h : isInt64 n = true) {raw : Json.Value}
    (hraw : Json.parse (Utf8.encode (decimalInt n)) = .ok raw) : code? raw = some n := by
  have hrange := isInt64_iff.mp h
  rcases Json.parse_decimalInt hraw with ⟨-, -, rfl⟩ | ⟨hwide, -⟩
  · exact if_pos h
  · simp only [minInt64, maxInt64, maxUInt64] at hrange hwide
    omega

/-- **The two forms of a code agree up to `2 ^ 63 + 1024`.** Take two replies that only differ in their
code, which is an integer in one and the text of this integer in the other. They report the same if the
integer is no greater than that, and beyond it only if it is too large for a binary64 number. -/
theorem errno_forms_agree_iff {n : Int} {raw : Json.Value}
    (hraw : Json.parse (Utf8.encode (decimalInt n)) = .ok raw)
    {fields fields' : List (String × Json.Value)} (h : Keyed.lookup "errno" fields = some raw)
    (h' : Keyed.lookup "errno" fields' = some (.string (String.ofList (decimalInt n))))
    (hsame : ∀ key, key ≠ "errno" → Keyed.lookup key fields' = Keyed.lookup key fields) :
    ofBody (.object fields') = ofBody (.object fields) ↔
      n.natAbs ≤ 2 ^ 63 + 1024 ∨ tooLarge ≤ n.natAbs := by
  have htext (code : Int) : textFor code fields' = textFor code fields := by
    rw [textFor, textFor, hsame "error" (by decide)]
  have hcode' : code? (.string (String.ofList (decimalInt n))) = codeOfText? (decimalInt n) := by
    rw [← String.toList_ofList (l := decimalInt n), code?, String.toList_ofList]
  rw [ofBody_of_lookup h, ofBody_of_lookup h', hcode']
  simp only [htext]
  cases hsigned : isInt64 n with
  | true =>
    rw [code?_of_isInt64 hsigned hraw, codeOfText?_of_isInt64 hsigned]
    have hrange := isInt64_iff.mp hsigned
    refine iff_of_true rfl (.inl ?_)
    simp only [minInt64, maxInt64] at hrange
    omega
  | false =>
    have hn := isInt64_eq_false_iff.mp hsigned
    have hlarge : 2 ^ 63 + 1024 < tooLarge :=
      not_le.mp (mt (ofRatio_eq_none_iff false _).mpr (by decide))
    rw [code?_of_parse hn hraw, codeOfText?_of_outside hn]
    by_cases hnear : n.natAbs ≤ 2 ^ 63 + 1024
    · rw [if_pos hnear, if_pos (hnear.trans_lt hlarge)]
      exact iff_of_true rfl (.inl hnear)
    · rw [if_neg hnear]
      by_cases hfinite : n.natAbs < tooLarge
      · -- the text is still read where the integer is not
        rw [if_pos hfinite, Option.bind_some, if_neg (clampInt64_ne_zero hn)]
        refine iff_of_false (by simp) ?_
        rintro (hle | hle)
        · exact hnear hle
        · exact absurd hfinite (not_lt.mpr hle)
      · rw [if_neg hfinite]
        exact iff_of_true rfl (.inr (not_lt.mp hfinite))

/-- The two forms of the first integer out of range agree. -/
theorem errno_forms_agree_iff_clamped :
    ofBody (.object [("errno", .string (String.ofList (decimalInt (2 ^ 63 : Nat))))])
      = ofBody (.object [("errno", .number (.int (2 ^ 63 : Nat)))]) :=
  (errno_forms_agree_iff (n := (2 ^ 63 : Nat)) (parse_natural (by decide)) rfl rfl
    (fun key hkey => by simp only [Keyed.lookup, if_neg hkey.symm])).mpr (.inl (by decide))

/-- The first integer that rounds to more than `2 ^ 63` is reported as a text, but not as a number. -/
theorem errno_forms_differ :
    let code := decimalInt (2 ^ 63 + 1025 : Nat)
    (∃ body, Json.parse (bodyOfCode code) = .ok body ∧ ofBody body = none) ∧
      ∃ body, Json.parse (bodyOfCode ('"' :: code ++ ['"'])) = .ok body ∧
        ofBody body = some ⟨2 ^ 63 - 1, ""⟩ := by
  intro code
  have hnumber := parse_bodyOfCode (spelling_natural (n := 2 ^ 63 + 1025) (by decide)) (Nat.zero_le _)
  have hplain : code.all Json.isPlain = true := by decide +kernel
  have hstring : Json.Spelling (.string (String.ofList code)) (Utf8.encode ('"' :: code ++ ['"'])) := by
    rw [Utf8.encode_append]
    exact .string (by rw [String.toList_ofList]; exact Json.stringSpelling_plain hplain)
  refine ⟨⟨_, hnumber, by decide +kernel⟩, _, parse_bodyOfCode hstring (Nat.zero_le _), ?_⟩
  decide +kernel

end ServerError

end TaskProbe
