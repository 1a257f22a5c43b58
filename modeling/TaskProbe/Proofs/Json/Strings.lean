import TaskProbe.Proofs.Json.Spelling
import TaskProbe.Proofs.Text.Utf8

/-!
# Strings

Every spelling of a string is read as the string, whatever follows its closing quote
(`string_of_spelling`), and a string is written in one of its spellings
(`stringSpelling_flatMap_escapeChar`). Both go character by character.
-/

namespace TaskProbe.Json

open Text Text.Utf8

/-! ## Escapes -/

theorem hexEscape_of_fourDigits {ds : List UInt8} {n : Nat} (h : FourDigits ds n)
    (rest : List UInt8) : hexEscape (ds ++ rest) = .ok (n, rest) := by
  obtain ⟨ha, hb, hc, hd⟩ := h
  simp only [List.cons_append, List.nil_append, hexEscape, ha, hb, hc, hd]

theorem shortEscape?_of_mem {b : UInt8} {c : Char} (h : (b, c) ∈ shortForms) :
    shortEscape? b = some c := by
  have hall : ∀ f ∈ shortForms, shortEscape? f.1 = some f.2 := by decide
  exact hall _ h

theorem lowSurrogate_of_fourDigits {ds : List UInt8} {low : Nat} (h : FourDigits ds low)
    (hlow : 0xDC00 ≤ low ∧ low ≤ 0xDFFF) (high : Nat) (rest : List UInt8) :
    lowSurrogate high (Byte.backslash :: 0x75 :: (ds ++ rest))
      = .ok (Char.ofNat (0x10000 + (high - 0xD800) * 0x400 + (low - 0xDC00)), rest) := by
  have hpair : ¬ (decide (low < 0xDC00) || decide (0xDFFF < low)) = true := by
    simp only [Bool.or_eq_true, decide_eq_true_eq]
    omega
  simp only [lowSurrogate, ne_eq, not_true_eq_false, if_false, hexEscape_of_fourDigits h]
  exact if_neg hpair

/-- The escape of a code point: one that is no surrogate stands for itself, and one that is the first
half of a pair is followed by the second half. -/
theorem escape_code {ds : List UInt8} {n : Nat} (h : FourDigits ds n) (rest : List UInt8) :
    escape (0x75 :: (ds ++ rest)) =
      if 0xDC00 ≤ n && n ≤ 0xDFFF then .error (.before .loneSurrogate rest)
      else if 0xD800 ≤ n && n ≤ 0xDBFF then lowSurrogate n rest
      else .ok (Char.ofNat n, rest) := by
  have hu : shortEscape? 0x75 = none := by decide
  simp only [escape, hu, if_true, hexEscape_of_fourDigits h]

/-- A spelling of a character is the character itself, or a backslash and what is read as an escape
of the character. -/
theorem CharSpelling.plain_or_escape {c : Char} {t : List UInt8} (h : CharSpelling c t) :
    (t = encodeChar c ∧ 0x20 ≤ c.toNat ∧ c ≠ '"' ∧ c ≠ '\\') ∨
      ∃ u, t = Byte.backslash :: u ∧ ∀ rest, escape (u ++ rest) = .ok (c, rest) := by
  cases h with
  | plain hc hquote hbackslash => exact .inl ⟨rfl, hc, hquote, hbackslash⟩
  | short h =>
    refine .inr ⟨_, rfl, fun rest => ?_⟩
    simp only [List.cons_append, List.nil_append, escape, shortEscape?_of_mem h]
  | code h =>
    refine .inr ⟨_, rfl, fun rest => ?_⟩
    -- no character is half of a pair
    have hc := toNat_bounds c
    rw [List.cons_append, escape_code h, if_neg (by simp; omega), if_neg (by simp; omega),
      Char.ofNat_toNat]
  | pair h h' hhigh hlow hc =>
    refine .inr ⟨_, rfl, fun rest => ?_⟩
    rw [List.cons_append, List.append_assoc, escape_code h, if_neg (by simp; omega),
      if_pos (by simp; omega), List.cons_append, List.cons_append,
      lowSurrogate_of_fourDigits h' hlow, ← hc, Char.ofNat_toNat]

/-! ## Reading -/

theorem stringBody_quote (rest : List UInt8) :
    stringBody none (Byte.quote :: rest) = .ok ([], rest) := by
  rw [stringBody, if_pos rfl]

theorem stringBody_escape {c : Char} {u rest : List UInt8}
    (h : escape (u ++ rest) = .ok (c, rest)) :
    stringBody none (Byte.backslash :: (u ++ rest))
      = (stringBody none rest).map fun (cs, r) => (c :: cs, r) := by
  rw [stringBody, if_neg (by decide), if_pos rfl]
  split
  · next h' => rw [h] at h'; cases h'
  · next h' => rw [h] at h'; cases h'; rfl

theorem stringBody_plain {c : Char} {a : UInt8} {tail rest : List UInt8}
    (h : next a (tail ++ rest) = (some c, rest)) (hquote : a ≠ Byte.quote)
    (hbackslash : a ≠ Byte.backslash) (ha : ¬ a < 0x20) :
    stringBody none (a :: (tail ++ rest))
      = (stringBody none rest).map fun (cs, r) => (c :: cs, r) := by
  rw [stringBody, if_neg hquote, if_neg hbackslash, if_neg ha, h]
  rfl

/-- A first byte that begins none of the special cases. -/
theorem plain_head {c : Char} {a : UInt8}
    (h : a.toNat = c.toNat ∧ a.toNat < 0x80 ∨ 0xC2 ≤ a.toNat ∧ 0x80 ≤ c.toNat)
    (hc : 0x20 ≤ c.toNat) (hquote : c ≠ '"') (hbackslash : c ≠ '\\') :
    a ≠ Byte.quote ∧ a ≠ Byte.backslash ∧ ¬ a < 0x20 := by
  have hquote' : c.toNat ≠ 0x22 := fun h => hquote (Char.toNat_inj.mp h)
  have hbackslash' : c.toNat ≠ 0x5C := fun h => hbackslash (Char.toNat_inj.mp h)
  simp only [Byte.quote, Byte.backslash, ne_eq, ← UInt8.toNat_inj, UInt8.lt_iff_toNat_lt,
    UInt8.reduceToNat]
  omega

theorem stringBody_of_charSpelling {c : Char} {t : List UInt8} (h : CharSpelling c t)
    (rest : List UInt8) : stringBody none (t ++ rest)
      = (stringBody none rest).map fun (cs, r) => (c :: cs, r) := by
  rcases h.plain_or_escape with ⟨rfl, hc, hquote, hbackslash⟩ | ⟨u, rfl, hu⟩
  · obtain ⟨a, tail, henc, hhead, hnext⟩ := exists_encodeChar c
    obtain ⟨h₁, h₂, h₃⟩ := plain_head hhead hc hquote hbackslash
    rw [henc, List.cons_append]
    exact stringBody_plain (hnext rest) h₁ h₂ h₃
  · exact stringBody_escape (hu rest)

/-- Every spelling of a string is read as the string. -/
theorem string_of_spelling {cs : List Char} {t : List UInt8} (h : StringSpelling cs t)
    (rest : List UInt8) : string (t ++ Byte.quote :: rest) = .ok (cs, rest) := by
  unfold string
  induction h with
  | nil => exact stringBody_quote rest
  | cons h hs ih =>
    rw [List.append_assoc, stringBody_of_charSpelling h, ih]
    rfl

/-! ## Writing -/

/-- The byte of a hexadecimal digit. -/
theorem hexValue?_encodeChar {d : Nat} (h : d < 16) :
    ∃ b, encodeChar (digitChar d) = [b] ∧ Byte.hexValue? b = some d := by
  have hall : ∀ e ∈ List.range 16, encodeChar (digitChar e) = [(digitChar e).toNat.toUInt8] ∧
      Byte.hexValue? (digitChar e).toNat.toUInt8 = some e := by decide
  exact ⟨_, hall d (List.mem_range.mpr h)⟩

/-- A control character is written as its code point. -/
theorem charSpelling_control {c : Char} (h : c.toNat < 0x20) :
    CharSpelling c (encode
      ['\\', 'u', '0', '0', digitChar (c.toNat / 16), digitChar (c.toNat % 16)]) := by
  obtain ⟨x, hx, hx'⟩ := hexValue?_encodeChar (show c.toNat / 16 < 16 by omega)
  obtain ⟨y, hy, hy'⟩ := hexValue?_encodeChar (show c.toNat % 16 < 16 by omega)
  have hzero : Byte.hexValue? 0x30 = some 0 := by decide
  have hn : ((0 * 16 + 0) * 16 + c.toNat / 16) * 16 + c.toNat % 16 = c.toNat := by omega
  have hdigits := FourDigits.mk hzero hzero hx' hy'
  rw [hn] at hdigits
  simp only [encode_cons, hx, hy]
  exact .code hdigits

theorem charSpelling_escapeChar (c : Char) : CharSpelling c (encode (escapeChar c)) := by
  unfold escapeChar
  repeat' split
  all_goals first
    | (next h => subst h; exact .short (by decide))
    | (next h => exact charSpelling_control h)
    | skip
  next hquote hbackslash _ _ _ _ _ hc =>
    rw [encode_cons, encode_nil, List.append_nil]
    exact .plain (Nat.le_of_not_lt hc) hquote hbackslash

/-- A string is written in one of its spellings. -/
theorem stringSpelling_flatMap_escapeChar : ∀ cs : List Char,
    StringSpelling cs (encode (cs.flatMap escapeChar))
  | [] => .nil
  | c :: cs => by
    rw [List.flatMap_cons, encode_append]
    exact .cons (charSpelling_escapeChar c) (stringSpelling_flatMap_escapeChar cs)

/-- A character that may stand for itself in a string. -/
def isPlain (c : Char) : Bool := 0x20 ≤ c.toNat && c != '"' && c != '\\'

/-- A text of such characters is spelled as it is. -/
theorem stringSpelling_plain {s : List Char} (h : s.all isPlain = true) :
    StringSpelling s (encode s) := by
  induction s with
  | nil => exact .nil
  | cons c s ih =>
    obtain ⟨hc, hs⟩ := Bool.and_eq_true_iff.mp h
    simp only [isPlain, Bool.and_eq_true, decide_eq_true_eq, bne_iff_ne] at hc
    rw [encode_cons]
    exact .cons (.plain hc.1.1 hc.1.2 hc.2) (ih hs)

end TaskProbe.Json
