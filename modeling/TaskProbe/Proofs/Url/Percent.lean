import TaskProbe.Proofs.Text.Utf8
import TaskProbe.Url.Basic
import TaskProbe.Url.Parser

/-!
# Percent encoding there and back

What is left of a text in its encoded form. If `%` itself is encoded, nothing is lost
(`percentDecode_percentEncode`), and every `%` starts a whole escape (`escapesWhole_percentEncode`).

A segment put into a path is encoded in this way, so it is a dot segment only if it was one before
(`not_isDot_percentEncode`): what a dot segment is decoded to are the bytes of its dots.
-/

namespace TaskProbe.Url

open Text

/-! ## Digits -/

/-- The digits of escapes are read as what they stand for, and are no marks of a URL. -/
theorem upperDigitChar_spec {d : Nat} (h : d < 16) :
    hexValue? (upperDigitChar d) = some d ∧ upperDigitChar d ∉ ['%', '/', '\\', '?', '#'] := by
  have hall : ∀ e ∈ List.range 16, hexValue? (upperDigitChar e) = some e ∧
      upperDigitChar e ∉ ['%', '/', '\\', '?', '#'] := by decide
  exact hall d (List.mem_range.mpr h)

/-- An encoded byte is `%` and two hexadecimal digits, from which the byte is read. -/
theorem exists_percentByte (b : UInt8) : ∃ x y, percentByte b = ['%', x, y] ∧
    x ∉ ['%', '/', '\\', '?', '#'] ∧ y ∉ ['%', '/', '\\', '?', '#'] ∧
    ∃ m n, hexValue? x = some m ∧ hexValue? y = some n ∧ (m * 16 + n).toUInt8 = b := by
  have hb : b.toNat < 256 := UInt8.toNat_lt_size b
  obtain ⟨hx, hx'⟩ := upperDigitChar_spec (show b.toNat / 16 < 16 by omega)
  obtain ⟨hy, hy'⟩ := upperDigitChar_spec (show b.toNat % 16 < 16 by omega)
  refine ⟨_, _, rfl, hx', hy', _, _, hx, hy, ?_⟩
  rw [show b.toNat / 16 * 16 + b.toNat % 16 = b.toNat by omega]
  exact UInt8.ofNat_toNat

/-! ## Decoding what was encoded -/

theorem percentDecode_percentByte (b : UInt8) (rest : List Char) :
    percentDecode (percentByte b ++ rest) = b :: percentDecode rest := by
  obtain ⟨x, y, hbyte, -, -, m, n, hx, hy, hb⟩ := exists_percentByte b
  rw [hbyte]
  simp only [List.cons_append, List.nil_append, percentDecode, hx, hy, hb]

theorem percentDecode_percentBytes (bytes : List UInt8) (rest : List Char) :
    percentDecode (bytes.flatMap percentByte ++ rest) = bytes ++ percentDecode rest := by
  induction bytes with
  | nil => rfl
  | cons b bytes ih =>
    rw [List.flatMap_cons, List.append_assoc, percentDecode_percentByte, ih, List.cons_append]

theorem percentDecode_cons {c : Char} (h : c ≠ '%') (rest : List Char) :
    percentDecode (c :: rest) = Utf8.encodeChar c ++ percentDecode rest := by
  rw [percentDecode]
  intro a b rest' hc
  exact absurd hc h

/-- **An encoded text is decoded to its bytes**, if `%` is one of the characters that are encoded. -/
theorem percentDecode_percentEncode {set : Char → Bool} (hset : set '%' = true) (s : List Char) :
    percentDecode (percentEncode set s) = Utf8.encode s := by
  induction s with
  | nil => rfl
  | cons c s ih =>
    rw [percentEncode, List.flatMap_cons, ← percentEncode, Utf8.encode_cons, percentChar]
    by_cases hc : set c = true
    · rw [if_pos hc, percentDecode_percentBytes, ih]
    · rw [if_neg hc, List.singleton_append, percentDecode_cons, ih]
      rintro rfl
      exact hc hset

theorem percentEncode_injective {set : Char → Bool} (hset : set '%' = true) {s t : List Char}
    (h : percentEncode set s = percentEncode set t) : s = t := by
  have hdecoded := congrArg percentDecode h
  rw [percentDecode_percentEncode hset, percentDecode_percentEncode hset] at hdecoded
  exact Utf8.encode_injective hdecoded

/-! ## Characters of an encoded text -/

/-- A character of the encoded text is one of the text that is not encoded, or one of an escape. -/
theorem mem_percentEncode_cases {set : Char → Bool} {c : Char} {s : List Char}
    (h : c ∈ percentEncode set s) :
    c ∈ s ∧ set c = false ∨ c = '%' ∨ ∃ d < 16, c = upperDigitChar d := by
  obtain ⟨e, hs, he⟩ := List.mem_flatMap.mp h
  rw [percentChar] at he
  by_cases hset : set e = true
  · rw [if_pos hset] at he
    obtain ⟨b, -, hb⟩ := List.mem_flatMap.mp he
    have hlt : b.toNat < 256 := UInt8.toNat_lt_size b
    rw [percentByte, upperHexByte, List.mem_cons, List.mem_cons, List.mem_singleton] at hb
    rcases hb with rfl | rfl | rfl
    · exact .inr (.inl rfl)
    · exact .inr (.inr ⟨b.toNat / 16, by omega, rfl⟩)
    · exact .inr (.inr ⟨b.toNat % 16, by omega, rfl⟩)
  · rw [if_neg hset, List.mem_singleton] at he
    rw [he]
    exact .inl ⟨hs, Bool.eq_false_iff.mpr hset⟩

/-- A mark of the encoded text is one of the text, and one that is not encoded. -/
theorem mem_of_mem_percentEncode {set : Char → Bool} {mark : Char}
    (hmark : mark ∈ ['/', '\\', '?', '#']) {s : List Char} (h : mark ∈ percentEncode set s) :
    mark ∈ s ∧ set mark = false := by
  rcases mem_percentEncode_cases h with hplain | rfl | ⟨d, hd, rfl⟩
  · exact hplain
  · -- an escape consists of `%` and digits
    exact absurd hmark (by decide)
  · exact absurd (List.mem_cons_of_mem _ hmark) (upperDigitChar_spec hd).2

/-! ## Escapes -/

/-- Every `%` is followed by two hexadecimal digits. -/
def EscapesWhole (s : List Char) : Prop := ∀ before after, s = before ++ '%' :: after →
  ∃ x y rest, after = x :: y :: rest ∧ (hexValue? x).isSome ∧ (hexValue? y).isSome

theorem escapesWhole_nil : EscapesWhole [] := by
  intro before after h
  simp at h

theorem EscapesWhole.append {s t : List Char} (hs : EscapesWhole s) (ht : EscapesWhole t) :
    EscapesWhole (s ++ t) := by
  intro before after h
  rcases List.append_eq_append_iff.mp h with ⟨u, rfl, hu⟩ | ⟨u, rfl, hu⟩
  · exact ht u after hu
  · cases u with
    | nil =>
      exact ht [] after hu.symm
    | cons c u =>
      rw [List.cons_append] at hu
      injection hu with hc hafter
      obtain ⟨x, y, rest, hrest, hx, hy⟩ := hs before u (by rw [hc])
      exact ⟨x, y, rest ++ t, by rw [hafter, hrest]; rfl, hx, hy⟩

theorem escapesWhole_percentByte (b : UInt8) : EscapesWhole (percentByte b) := by
  obtain ⟨x, y, hbyte, hx, hy, m, n, hm, hn, -⟩ := exists_percentByte b
  intro before after h
  rw [hbyte] at h
  match before with
  | [] =>
    simp only [List.nil_append, List.cons.injEq, true_and] at h
    exact ⟨x, y, [], h.symm, by rw [hm]; rfl, by rw [hn]; rfl⟩
  | [_] =>
    simp only [List.cons_append, List.nil_append, List.cons.injEq] at h
    exact absurd (by rw [h.2.1]; decide) hx
  | [_, _] =>
    simp only [List.cons_append, List.nil_append, List.cons.injEq] at h
    exact absurd (by rw [h.2.2.1]; decide) hy
  | _ :: _ :: _ :: _ => simp at h

theorem escapesWhole_percentBytes (bytes : List UInt8) :
    EscapesWhole (bytes.flatMap percentByte) := by
  induction bytes with
  | nil => exact escapesWhole_nil
  | cons b bytes ih => exact (escapesWhole_percentByte b).append ih

theorem escapesWhole_percentChar {set : Char → Bool} (hset : set '%' = true) (c : Char) :
    EscapesWhole (percentChar set c) := by
  rw [percentChar]
  by_cases hc : set c = true
  · rw [if_pos hc]
    exact escapesWhole_percentBytes _
  · -- a character that stays is not `%`
    rw [if_neg hc]
    intro before after h
    cases before with
    | nil =>
      simp only [List.nil_append, List.cons.injEq] at h
      rw [h.1] at hc
      exact absurd hset hc
    | cons d before => simp at h

/-- **Every `%` of an encoded text starts a whole escape**, if `%` itself is encoded. -/
theorem escapesWhole_percentEncode {set : Char → Bool} (hset : set '%' = true) (s : List Char) :
    EscapesWhole (percentEncode set s) := by
  induction s with
  | nil => exact escapesWhole_nil
  | cons c s ih => exact (escapesWhole_percentChar hset c).append ih

/-! ## Dot segments -/

theorem toLower_cases (c : Char) :
    c.toLower = c ∨ 65 ≤ c.toNat ∧ c.toNat ≤ 90 ∧ c.toLower.toNat = c.toNat + 32 := by
  unfold Char.toLower
  split
  · next hc =>
    have hlo : 65 ≤ c.toNat := UInt32.le_iff_toNat_le.mp hc.1
    have hhi : c.toNat ≤ 90 := UInt32.le_iff_toNat_le.mp hc.2
    refine .inr ⟨hlo, hhi, ?_⟩
    show (c.val + 32).toNat = c.val.toNat + 32
    rw [UInt32.toNat_add, Nat.mod_eq_of_lt]
    · rfl
    · have : c.val.toNat = c.toNat := rfl
      have : (32 : UInt32).toNat = 32 := rfl
      omega
  · exact .inl rfl

theorem eq_of_toLower {c d : Char} (h : c.toLower = d) (hd : d.toNat < 97) : c = d := by
  rcases toLower_cases c with hsame | ⟨hlo, -, hlower⟩
  · exact hsame.symm.trans h
  · rw [h] at hlower
    omega

theorem hexValue?_of_toLower_e {c : Char} (h : c.toLower = 'e') : hexValue? c = some 14 := by
  rcases toLower_cases c with hsame | ⟨-, -, hlower⟩
  · rw [← hsame, h]
    rfl
  · rw [h] at hlower
    have hc : c = 'E' := Char.toNat_inj.mp (by
      have : 'e'.toNat = 101 := rfl
      have : 'E'.toNat = 69 := rfl
      omega)
    rw [hc]
    rfl

/-- A dot in either of its forms, in any case of its letters, is decoded as the byte of a dot. -/
theorem percentDecode_dot {s t : List Char}
    (h : lowerAscii s = '.' :: t ∨ lowerAscii s = '%' :: '2' :: 'e' :: t) :
    ∃ u, lowerAscii u = t ∧ percentDecode s = 0x2E :: percentDecode u := by
  rcases h with h | h
  · obtain ⟨c, u, rfl, hc, hu⟩ := List.map_eq_cons_iff.mp h
    refine ⟨u, hu, ?_⟩
    rw [eq_of_toLower hc (by decide), percentDecode_cons (by decide)]
    rfl
  · obtain ⟨c, s, rfl, hc, hs⟩ := List.map_eq_cons_iff.mp h
    obtain ⟨d, s, rfl, hd, hs⟩ := List.map_eq_cons_iff.mp hs
    obtain ⟨e, u, rfl, he, hu⟩ := List.map_eq_cons_iff.mp hs
    refine ⟨u, hu, ?_⟩
    have htwo : hexValue? '2' = some 2 := by decide
    rw [eq_of_toLower hc (by decide), eq_of_toLower hd (by decide)]
    simp only [percentDecode, htwo, hexValue?_of_toLower_e he]
    rfl

theorem percentDecode_of_isSingleDot {s : List Char} (h : isSingleDot s = true) :
    percentDecode s = Utf8.encode ['.'] := by
  have hform : lowerAscii s = ['.'] ∨ lowerAscii s = ['%', '2', 'e'] := by
    simpa [isSingleDot] using h
  obtain ⟨u, hu, hdecoded⟩ := percentDecode_dot hform
  rw [hdecoded, List.map_eq_nil_iff.mp hu]
  rfl

theorem percentDecode_of_isDoubleDot {s : List Char} (h : isDoubleDot s = true) :
    percentDecode s = Utf8.encode ['.', '.'] := by
  have hform : ∃ t, (lowerAscii s = '.' :: t ∨ lowerAscii s = '%' :: '2' :: 'e' :: t) ∧
      (t = ['.'] ∨ t = ['%', '2', 'e']) := by
    have hmem : lowerAscii s = ['.', '.'] ∨ lowerAscii s = ['.', '%', '2', 'e'] ∨
        lowerAscii s = ['%', '2', 'e', '.'] ∨ lowerAscii s = ['%', '2', 'e', '%', '2', 'e'] := by
      simpa [isDoubleDot] using h
    rcases hmem with h | h | h | h
    · exact ⟨['.'], .inl h, .inl rfl⟩
    · exact ⟨['%', '2', 'e'], .inl h, .inr rfl⟩
    · exact ⟨['.'], .inr h, .inl rfl⟩
    · exact ⟨['%', '2', 'e'], .inr h, .inr rfl⟩
  obtain ⟨t, hs, ht⟩ := hform
  obtain ⟨u, hu, hdecoded⟩ := percentDecode_dot hs
  rw [← hu] at ht
  obtain ⟨v, hv, hdecoded'⟩ := percentDecode_dot (t := []) ht
  rw [hdecoded, hdecoded', List.map_eq_nil_iff.mp hv]
  rfl

/-- **Encoding makes no dot segment.** -/
theorem not_isDot_percentEncode {set : Char → Bool} (hset : set '%' = true) {s : List Char}
    (hs : ¬ (s = ['.'] ∨ s = ['.', '.'])) :
    isSingleDot (percentEncode set s) = false ∧ isDoubleDot (percentEncode set s) = false := by
  have heq {t : List Char} (h : percentDecode (percentEncode set s) = Utf8.encode t) : s = t := by
    rw [percentDecode_percentEncode hset] at h
    exact Utf8.encode_injective h
  constructor
  · rw [Bool.eq_false_iff]
    exact fun h => hs (.inl (heq (percentDecode_of_isSingleDot h)))
  · rw [Bool.eq_false_iff]
    exact fun h => hs (.inr (heq (percentDecode_of_isDoubleDot h)))

end TaskProbe.Url
