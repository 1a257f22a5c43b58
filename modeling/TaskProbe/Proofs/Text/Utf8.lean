import TaskProbe.Text.Utf8

/-!
# UTF-8 there and back

What the decoder's step (`next`) makes of an encoded character, and from it what both decoders make of
an encoded text. An ASCII character is its own byte, and every other one starts at `0xC2` or above, so
never with a byte that continues a character.

* `exists_encodeChar`: the first byte, and the step on the whole character
* `head_encode`, `tail_encode`: what a text can start with
* `decode?_encode`, `lossy_encode`: both decoders give an encoded text back
* `decode?_eq_some_iff`: what the strict decoder accepts is the encoding of a text
* `take_lossy_append`: how many bytes the first characters come from
-/

namespace TaskProbe.Text.Utf8

/-! ## Numbers as bytes and characters -/

theorem toNat_toUInt8 {n : Nat} (h : n < 256) : n.toUInt8.toNat = n := by
  simp [Nat.toUInt8, Nat.mod_eq_of_lt h]

theorem toNat_bounds (c : Char) : c.toNat < 0xD800 ∨ 0xDFFF < c.toNat ∧ c.toNat < 0x110000 := by
  have h := c.valid
  simpa [UInt32.isValidChar, Nat.isValidChar] using h

theorem toNat_ofNat {n : Nat} (h : n < 0xD800 ∨ 0xDFFF < n ∧ n < 0x110000) :
    (Char.ofNat n).toNat = n := by
  rw [Char.ofNat, dif_pos h]
  rfl

theorem toUInt8_eq {a : UInt8} {n : Nat} (h : n = a.toNat) : n.toUInt8 = a := by
  subst h
  exact UInt8.ofNat_toNat

/-! ## Classes of bytes -/

theorem width_one {a : UInt8} (h : a.toNat < 0x80) : width a = 1 := by
  simp only [width, UInt8.lt_iff_toNat_lt, UInt8.reduceToNat]
  rw [if_pos h]

theorem width_two {a : UInt8} (h : 0xC2 ≤ a.toNat) (h' : a.toNat < 0xE0) : width a = 2 := by
  simp only [width, UInt8.lt_iff_toNat_lt, UInt8.reduceToNat]
  rw [if_neg (by omega), if_neg (by omega), if_pos h']

theorem width_three {a : UInt8} (h : 0xE0 ≤ a.toNat) (h' : a.toNat < 0xF0) : width a = 3 := by
  simp only [width, UInt8.lt_iff_toNat_lt, UInt8.reduceToNat]
  rw [if_neg (by omega), if_neg (by omega), if_neg (by omega), if_pos h']

theorem width_four {a : UInt8} (h : 0xF0 ≤ a.toNat) (h' : a.toNat < 0xF5) : width a = 4 := by
  simp only [width, UInt8.lt_iff_toNat_lt, UInt8.reduceToNat]
  rw [if_neg (by omega), if_neg (by omega), if_neg (by omega), if_neg (by omega), if_pos h']

theorem bounds_of_width (a : UInt8) : (width a = 1 → a.toNat < 0x80) ∧
    (width a = 2 → 0xC2 ≤ a.toNat ∧ a.toNat < 0xE0) ∧
    (width a = 3 → 0xE0 ≤ a.toNat ∧ a.toNat < 0xF0) ∧
    (width a = 4 → 0xF0 ≤ a.toNat ∧ a.toNat < 0xF5) := by
  simp only [width, UInt8.lt_iff_toNat_lt, UInt8.reduceToNat]
  repeat' split
  all_goals omega

theorem isTail_iff {b : UInt8} : isTail b = true ↔ 0x80 ≤ b.toNat ∧ b.toNat ≤ 0xBF := by
  simp [isTail, UInt8.le_iff_toNat_le]

theorem isSecond_of_isTail {a b : UInt8} (h : isTail b = true)
    (hE0 : a.toNat = 0xE0 → 0xA0 ≤ b.toNat) (hED : a.toNat = 0xED → b.toNat ≤ 0x9F)
    (hF0 : a.toNat = 0xF0 → 0x90 ≤ b.toNat) (hF4 : a.toNat = 0xF4 → b.toNat ≤ 0x8F) :
    isSecond a b = true := by
  obtain ⟨hlo, hhi⟩ := isTail_iff.mp h
  simp only [isSecond, beq_iff_eq, ← UInt8.toNat_inj, UInt8.reduceToNat]
  split
  · simp only [Bool.and_eq_true, decide_eq_true_eq, UInt8.le_iff_toNat_le, UInt8.reduceToNat]
    exact ⟨hE0 ‹_›, hhi⟩
  split
  · simp only [Bool.and_eq_true, decide_eq_true_eq, UInt8.le_iff_toNat_le, UInt8.reduceToNat]
    exact ⟨hlo, hED ‹_›⟩
  split
  · simp only [Bool.and_eq_true, decide_eq_true_eq, UInt8.le_iff_toNat_le, UInt8.reduceToNat]
    exact ⟨hF0 ‹_›, hhi⟩
  split
  · simp only [Bool.and_eq_true, decide_eq_true_eq, UInt8.le_iff_toNat_le, UInt8.reduceToNat]
    exact ⟨hlo, hF4 ‹_›⟩
  · exact h

theorem bounds_of_isSecond {a b : UInt8} (h : isSecond a b = true) :
    (0x80 ≤ b.toNat ∧ b.toNat ≤ 0xBF) ∧ (a.toNat = 0xE0 → 0xA0 ≤ b.toNat) ∧
      (a.toNat = 0xED → b.toNat ≤ 0x9F) ∧ (a.toNat = 0xF0 → 0x90 ≤ b.toNat) ∧
      (a.toNat = 0xF4 → b.toNat ≤ 0x8F) := by
  simp only [isSecond, isTail, beq_iff_eq, ← UInt8.toNat_inj, UInt8.reduceToNat] at h
  repeat' split at h
  all_goals
    simp only [Bool.and_eq_true, decide_eq_true_eq, UInt8.le_iff_toNat_le, UInt8.reduceToNat] at h
    omega

/-- Six bits of a number as a byte inside a character. -/
theorem tail_bits (n : Nat) :
    isTail (0x80 + n % 0x40).toUInt8 = true ∧ tailBits (0x80 + n % 0x40).toUInt8 = n % 0x40
      ∧ (0x80 + n % 0x40).toUInt8.toNat = 0x80 + n % 0x40 := by
  have h : (0x80 + n % 0x40).toUInt8.toNat = 0x80 + n % 0x40 := toNat_toUInt8 (by omega)
  refine ⟨isTail_iff.mpr (by omega), ?_, h⟩
  simp only [tailBits, h]
  omega

/-! ## One character -/

theorem encodeChar_ascii {c : Char} (h : c.toNat < 0x80) :
    encodeChar c = [c.toNat.toUInt8] := by
  simp only [encodeChar]
  rw [if_pos h]

theorem next_ascii {a : UInt8} (h : a.toNat < 0x80) (rest : List UInt8) :
    next a rest = (some (Char.ofNat a.toNat), rest) := by
  unfold next
  rw [width_one h]
  rfl

theorem next_two {n : Nat} (h : 0x80 ≤ n) (h' : n < 0x800) (rest : List UInt8) :
    next (0xC0 + n / 0x40).toUInt8 ((0x80 + n % 0x40).toUInt8 :: rest)
      = (some (Char.ofNat n), rest) := by
  have ha : (0xC0 + n / 0x40).toUInt8.toNat = 0xC0 + n / 0x40 := toNat_toUInt8 (by omega)
  obtain ⟨hb, hbits, -⟩ := tail_bits n
  unfold next
  rw [width_two (by omega) (by omega)]
  simp only [hb, if_true, ha, hbits]
  rw [show (0xC0 + n / 0x40) % 0x20 * 0x40 + n % 0x40 = n by omega]

theorem next_three {n : Nat} (h : 0x800 ≤ n) (h' : n < 0x10000)
    (hs : n < 0xD800 ∨ 0xDFFF < n) (rest : List UInt8) :
    next (0xE0 + n / 0x1000).toUInt8
        ((0x80 + n / 0x40 % 0x40).toUInt8 :: (0x80 + n % 0x40).toUInt8 :: rest)
      = (some (Char.ofNat n), rest) := by
  have ha : (0xE0 + n / 0x1000).toUInt8.toNat = 0xE0 + n / 0x1000 := toNat_toUInt8 (by omega)
  obtain ⟨hb, hbbits, hbn⟩ := tail_bits (n / 0x40)
  obtain ⟨hc, hcbits, -⟩ := tail_bits n
  have hsec : isSecond (0xE0 + n / 0x1000).toUInt8 (0x80 + n / 0x40 % 0x40).toUInt8 = true :=
    isSecond_of_isTail hb (by omega) (by omega) (by omega) (by omega)
  unfold next
  rw [width_three (by omega) (by omega)]
  simp only [hsec, hc, if_true, ha, hbbits, hcbits]
  rw [show (0xE0 + n / 0x1000) % 0x10 * 0x1000 + n / 0x40 % 0x40 * 0x40 + n % 0x40 = n by omega]

theorem next_four {n : Nat} (h : 0x10000 ≤ n) (h' : n < 0x110000) (rest : List UInt8) :
    next (0xF0 + n / 0x40000).toUInt8
        ((0x80 + n / 0x1000 % 0x40).toUInt8 :: (0x80 + n / 0x40 % 0x40).toUInt8
          :: (0x80 + n % 0x40).toUInt8 :: rest)
      = (some (Char.ofNat n), rest) := by
  have ha : (0xF0 + n / 0x40000).toUInt8.toNat = 0xF0 + n / 0x40000 := toNat_toUInt8 (by omega)
  obtain ⟨hb, hbbits, hbn⟩ := tail_bits (n / 0x1000)
  obtain ⟨hc, hcbits, -⟩ := tail_bits (n / 0x40)
  obtain ⟨hd, hdbits, -⟩ := tail_bits n
  have hsec : isSecond (0xF0 + n / 0x40000).toUInt8 (0x80 + n / 0x1000 % 0x40).toUInt8 = true :=
    isSecond_of_isTail hb (by omega) (by omega) (by omega) (by omega)
  unfold next
  rw [width_four (by omega) (by omega)]
  simp only [hsec, hc, hd, if_true, ha, hbbits, hcbits, hdbits]
  rw [show (0xF0 + n / 0x40000) % 0x08 * 0x40000 + n / 0x1000 % 0x40 * 0x1000
    + n / 0x40 % 0x40 * 0x40 + n % 0x40 = n by omega]

/-- The first byte of an encoded character, and what the step makes of the whole. -/
theorem exists_encodeChar (c : Char) : ∃ a tail, encodeChar c = a :: tail ∧
    (a.toNat = c.toNat ∧ a.toNat < 0x80 ∨ 0xC2 ≤ a.toNat ∧ 0x80 ≤ c.toNat) ∧
    ∀ rest, next a (tail ++ rest) = (some c, rest) := by
  have hc := toNat_bounds c
  have hself : Char.ofNat c.toNat = c := Char.ofNat_toNat c
  unfold encodeChar
  generalize c.toNat = n at *
  simp only
  split
  · next h =>
    have hn : n.toUInt8.toNat = n := toNat_toUInt8 (by omega)
    refine ⟨_, _, rfl, Or.inl ⟨hn, by omega⟩, fun rest => ?_⟩
    rw [List.nil_append, next_ascii (by omega), hn, hself]
  split
  · next h =>
    refine ⟨_, _, rfl, Or.inr ⟨?_, by omega⟩, fun rest => ?_⟩
    · rw [toNat_toUInt8] <;> omega
    · rw [← hself]
      exact next_two (by omega) h rest
  split
  · next h =>
    refine ⟨_, _, rfl, Or.inr ⟨?_, by omega⟩, fun rest => ?_⟩
    · rw [toNat_toUInt8] <;> omega
    · rw [← hself]
      exact next_three (by omega) h (by omega) rest
  · next h =>
    refine ⟨_, _, rfl, Or.inr ⟨?_, by omega⟩, fun rest => ?_⟩
    · rw [toNat_toUInt8] <;> omega
    · rw [← hself]
      exact next_four (by omega) (by omega) rest

/-- The character whose bytes are a first byte and one that continues it. -/
theorem encodeChar_of_two {a b : UInt8} (ha : 0xC2 ≤ a.toNat ∧ a.toNat < 0xE0)
    (hb : isTail b = true) :
    encodeChar (Char.ofNat (a.toNat % 0x20 * 0x40 + tailBits b)) = [a, b] := by
  obtain ⟨hlo, hhi⟩ := isTail_iff.mp hb
  simp only [tailBits]
  generalize hn : a.toNat % 0x20 * 0x40 + b.toNat % 0x40 = n
  have hchar : (Char.ofNat n).toNat = n := toNat_ofNat (by omega)
  have h₁ : (0xC0 + n / 0x40).toUInt8 = a := toUInt8_eq (by omega)
  have h₂ : (0x80 + n % 0x40).toUInt8 = b := toUInt8_eq (by omega)
  simp only [encodeChar, hchar]
  rw [if_neg (by omega), if_pos (by omega), h₁, h₂]

theorem encodeChar_of_three {a b c : UInt8} (ha : 0xE0 ≤ a.toNat ∧ a.toNat < 0xF0)
    (hb : isSecond a b = true) (hc : isTail c = true) :
    encodeChar (Char.ofNat (a.toNat % 0x10 * 0x1000 + tailBits b * 0x40 + tailBits c))
      = [a, b, c] := by
  obtain ⟨⟨hlo, hhi⟩, hE0, hED, -, -⟩ := bounds_of_isSecond hb
  obtain ⟨hclo, hchi⟩ := isTail_iff.mp hc
  simp only [tailBits]
  generalize hn : a.toNat % 0x10 * 0x1000 + b.toNat % 0x40 * 0x40 + c.toNat % 0x40 = n
  have hchar : (Char.ofNat n).toNat = n := toNat_ofNat (by omega)
  have h₁ : (0xE0 + n / 0x1000).toUInt8 = a := toUInt8_eq (by omega)
  have h₂ : (0x80 + n / 0x40 % 0x40).toUInt8 = b := toUInt8_eq (by omega)
  have h₃ : (0x80 + n % 0x40).toUInt8 = c := toUInt8_eq (by omega)
  simp only [encodeChar, hchar]
  rw [if_neg (by omega), if_neg (by omega), if_pos (by omega), h₁, h₂, h₃]

theorem encodeChar_of_four {a b c d : UInt8} (ha : 0xF0 ≤ a.toNat ∧ a.toNat < 0xF5)
    (hb : isSecond a b = true) (hc : isTail c = true) (hd : isTail d = true) :
    encodeChar (Char.ofNat (a.toNat % 0x08 * 0x40000 + tailBits b * 0x1000 + tailBits c * 0x40
      + tailBits d)) = [a, b, c, d] := by
  obtain ⟨⟨hlo, hhi⟩, -, -, hF0, hF4⟩ := bounds_of_isSecond hb
  obtain ⟨hclo, hchi⟩ := isTail_iff.mp hc
  obtain ⟨hdlo, hdhi⟩ := isTail_iff.mp hd
  simp only [tailBits]
  generalize hn : a.toNat % 0x08 * 0x40000 + b.toNat % 0x40 * 0x1000 + c.toNat % 0x40 * 0x40
    + d.toNat % 0x40 = n
  have hchar : (Char.ofNat n).toNat = n := toNat_ofNat (by omega)
  have h₁ : (0xF0 + n / 0x40000).toUInt8 = a := toUInt8_eq (by omega)
  have h₂ : (0x80 + n / 0x1000 % 0x40).toUInt8 = b := toUInt8_eq (by omega)
  have h₃ : (0x80 + n / 0x40 % 0x40).toUInt8 = c := toUInt8_eq (by omega)
  have h₄ : (0x80 + n % 0x40).toUInt8 = d := toUInt8_eq (by omega)
  simp only [encodeChar, hchar]
  rw [if_neg (by omega), if_neg (by omega), if_neg (by omega), h₁, h₂, h₃, h₄]

/-- What stands before the rest when the step finds a character: as many bytes as the first one says,
each of its class. -/
theorem next_some_cases {a : UInt8} {rest r : List UInt8} {c : Char}
    (h : next a rest = (some c, r)) :
    (width a = 1 ∧ rest = r ∧ c = Char.ofNat a.toNat) ∨
    (∃ b₁, width a = 2 ∧ rest = b₁ :: r ∧ isTail b₁ = true ∧
      c = Char.ofNat (a.toNat % 0x20 * 0x40 + tailBits b₁)) ∨
    (∃ b₁ b₂, width a = 3 ∧ rest = b₁ :: b₂ :: r ∧ isSecond a b₁ = true ∧ isTail b₂ = true ∧
      c = Char.ofNat (a.toNat % 0x10 * 0x1000 + tailBits b₁ * 0x40 + tailBits b₂)) ∨
    ∃ b₁ b₂ b₃, width a = 4 ∧ rest = b₁ :: b₂ :: b₃ :: r ∧ isSecond a b₁ = true ∧
      isTail b₂ = true ∧ isTail b₃ = true ∧
      c = Char.ofNat (a.toNat % 0x08 * 0x40000 + tailBits b₁ * 0x1000 + tailBits b₂ * 0x40
        + tailBits b₃) := by
  unfold next at h
  split at h
  · next hw =>
    cases h
    exact .inl ⟨hw, rfl, rfl⟩
  · next hw =>
    split at h
    case h_2 => cases h
    split at h
    case isFalse => cases h
    next hb₁ =>
    cases h
    exact .inr (.inl ⟨_, hw, rfl, hb₁, rfl⟩)
  · next hw =>
    split at h
    case h_2 => cases h
    split at h
    case isFalse => cases h
    next hb₁ =>
    split at h
    case h_2 => cases h
    split at h
    case isFalse => cases h
    next hb₂ =>
    cases h
    exact .inr (.inr (.inl ⟨_, _, hw, rfl, hb₁, hb₂, rfl⟩))
  · next hw =>
    split at h
    case h_2 => cases h
    split at h
    case isFalse => cases h
    next hb₁ =>
    split at h
    case h_2 => cases h
    split at h
    case isFalse => cases h
    next hb₂ =>
    split at h
    case h_2 => cases h
    split at h
    case isFalse => cases h
    next hb₃ =>
    cases h
    exact .inr (.inr (.inr ⟨_, _, _, hw, rfl, hb₁, hb₂, hb₃, rfl⟩))
  · cases h

/-- The bytes of a character that the step finds are those that encode it. -/
theorem eq_encodeChar_of_next {a : UInt8} {rest r : List UInt8} {c : Char}
    (h : next a rest = (some c, r)) : a :: rest = encodeChar c ++ r := by
  obtain ⟨hone, htwo, hthree, hfour⟩ := bounds_of_width a
  obtain ⟨hw, rfl, rfl⟩ | ⟨b₁, hw, rfl, hb₁, rfl⟩ | ⟨b₁, b₂, hw, rfl, hb₁, hb₂, rfl⟩ |
    ⟨b₁, b₂, b₃, hw, rfl, hb₁, hb₂, hb₃, rfl⟩ := next_some_cases h
  · have hn : (Char.ofNat a.toNat).toNat = a.toNat := toNat_ofNat (.inl (by omega))
    rw [encodeChar_ascii (by omega), hn, toUInt8_eq rfl]
    rfl
  · rw [encodeChar_of_two (htwo hw) hb₁]
    rfl
  · rw [encodeChar_of_three (hthree hw) hb₁ hb₂]
    rfl
  · rw [encodeChar_of_four (hfour hw) hb₁ hb₂ hb₃]
    rfl

/-- A byte of a character is the character itself, or outside ASCII. -/
theorem mem_encodeChar_cases {c : Char} {b : UInt8} (h : b ∈ encodeChar c) :
    b.toNat = c.toNat ∨ 0x80 ≤ b.toNat := by
  have hc := toNat_bounds c
  unfold encodeChar at h
  generalize c.toNat = n at *
  dsimp only at h
  split at h
  · rw [List.mem_singleton.mp h]
    exact .inl (toNat_toUInt8 (by omega))
  -- every byte of a longer character has its highest bit set
  refine .inr ?_
  split at h
  · simp only [List.mem_cons, List.not_mem_nil, or_false] at h
    rcases h with rfl | rfl <;> rw [toNat_toUInt8 (by omega)] <;> omega
  split at h
  · simp only [List.mem_cons, List.not_mem_nil, or_false] at h
    rcases h with rfl | rfl | rfl <;> rw [toNat_toUInt8 (by omega)] <;> omega
  · simp only [List.mem_cons, List.not_mem_nil, or_false] at h
    rcases h with rfl | rfl | rfl | rfl <;> rw [toNat_toUInt8 (by omega)] <;> omega

/-! ## Texts -/

theorem encode_nil : encode [] = [] := rfl

theorem encode_cons (c : Char) (s : List Char) : encode (c :: s) = encodeChar c ++ encode s := rfl

theorem encode_cons_ascii {c : Char} (h : c.toNat < 0x80) (s : List Char) :
    encode (c :: s) = c.toNat.toUInt8 :: encode s := by
  rw [encode_cons, encodeChar_ascii h]
  rfl

theorem encode_append (s t : List Char) : encode (s ++ t) = encode s ++ encode t :=
  List.flatMap_append

theorem encode_ne_nil {s : List Char} (h : s ≠ []) : encode s ≠ [] := by
  obtain ⟨c, s, rfl⟩ := List.exists_cons_of_ne_nil h
  obtain ⟨a, tail, hc, -⟩ := exists_encodeChar c
  simp [encode_cons, hc]

/-- A text does not start within a character. -/
theorem head_encode {s : List Char} {b : UInt8} {rest : List UInt8} (h : encode s = b :: rest) :
    b.toNat < 0x80 ∨ 0xC2 ≤ b.toNat := by
  match s with
  | [] => cases h
  | c :: s =>
    obtain ⟨a, tail, hc, hcases, -⟩ := exists_encodeChar c
    rw [encode_cons, hc, List.cons_append] at h
    injection h with hab _
    rw [← hab]
    exact hcases.imp And.right And.left

/-- After an ASCII byte another text begins. -/
theorem tail_encode {s : List Char} {b : UInt8} {rest : List UInt8} (h : encode s = b :: rest)
    (hb : b.toNat < 0x80) : ∃ t, rest = encode t := by
  match s with
  | [] => cases h
  | c :: s =>
    obtain ⟨a, tail, hc, hcases, -⟩ := exists_encodeChar c
    rw [encode_cons, hc, List.cons_append] at h
    injection h with hab hrest
    rcases hcases with ⟨hac, hlt⟩ | ⟨hge, -⟩
    · rw [encodeChar_ascii (hac ▸ hlt)] at hc
      injection hc with _ htail
      rw [← htail, List.nil_append] at hrest
      exact ⟨s, hrest.symm⟩
    · rw [hab] at hge
      omega

theorem decode?_encode_append : ∀ (s : List Char) (rest : List UInt8),
    decode? (encode s ++ rest) = (decode? rest).map (s ++ ·)
  | [], rest => by simp [encode_nil]
  | c :: s, rest => by
    obtain ⟨a, tail, he, -, hn⟩ := exists_encodeChar c
    rw [encode_cons, he, List.append_assoc, List.cons_append, decode?]
    simp only [hn, decode?_encode_append s rest, Option.map_map]
    rfl

theorem decode?_encode (s : List Char) : decode? (encode s) = some s := by
  have h := decode?_encode_append s []
  rw [List.append_nil, decode?] at h
  simpa using h

/-- **The strict decoder accepts exactly the bytes of texts**, and gives the text that they encode. -/
theorem decode?_eq_some_iff {data : List UInt8} {s : List Char} :
    decode? data = some s ↔ data = encode s := by
  constructor
  · intro h
    fun_induction decode? data generalizing s with
    | case1 =>
      cases h
      rfl
    | case2 a rest c hc ih =>
      obtain ⟨cs, hcs, rfl⟩ := Option.map_eq_some_iff.mp h
      rw [eq_encodeChar_of_next (Prod.ext hc rfl), encode_cons, ← ih hcs]
    | case3 => cases h
  · rintro rfl
    exact decode?_encode s

/-- Different texts have different bytes. -/
theorem encode_injective {s t : List Char} (h : encode s = encode t) : s = t := by
  have hread := congrArg decode? h
  rw [decode?_encode, decode?_encode] at hread
  exact Option.some.inj hread

theorem lossy_encode_append : ∀ (s : List Char) (rest : List UInt8),
    lossy (encode s ++ rest) = s ++ lossy rest
  | [], rest => rfl
  | c :: s, rest => by
    obtain ⟨a, tail, he, -, hn⟩ := exists_encodeChar c
    rw [encode_cons, he, List.append_assoc, List.cons_append, lossy]
    simp only [hn, lossy_encode_append s rest, Option.getD_some, List.cons_append]

theorem lossy_encode (s : List Char) : lossy (encode s) = s := by
  have h := lossy_encode_append s []
  rw [List.append_nil, lossy, List.append_nil] at h
  exact h

/-! ## What a step looks at

A step takes at most four bytes and looks at no others, so the first characters are known from the first
bytes, well formed or not.
-/

theorem next_append (a : UInt8) {rest : List UInt8} (h : 3 ≤ rest.length) (more : List UInt8) :
    next a (rest ++ more) = ((next a rest).1, (next a rest).2 ++ more) := by
  obtain ⟨b, c, d, r, rfl⟩ : ∃ b c d r, rest = b :: c :: d :: r := by
    match rest, h with
    | b :: c :: d :: r, _ => exact ⟨b, c, d, r, rfl⟩
  simp only [next, List.cons_append]
  repeat' split
  all_goals rfl

theorem length_le_next (a : UInt8) (rest : List UInt8) :
    rest.length ≤ (next a rest).2.length + 3 := by
  unfold next
  repeat' split
  all_goals
    simp only [List.length_cons, List.length_nil]
    omega

/-- The first `n` characters come from the first `4 * n` bytes. -/
theorem take_lossy_append : ∀ (n : Nat) {data : List UInt8}, 4 * n ≤ data.length →
    ∀ more, (lossy (data ++ more)).take n = (lossy data).take n
  | 0, _, _, _ => by rw [List.take_zero, List.take_zero]
  | n + 1, [], h, _ => absurd h (by simp)
  | n + 1, a :: rest, h, more => by
    rw [List.length_cons] at h
    have hlength := length_le_next a rest
    have ih := take_lossy_append n (show 4 * n ≤ (next a rest).2.length by omega) more
    rw [List.cons_append, lossy, lossy, next_append a (by omega), List.take_succ_cons,
      List.take_succ_cons, ih]

end TaskProbe.Text.Utf8
