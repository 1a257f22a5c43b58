import TaskProbe.Proofs.Gzip.Format

/-!
# Reading bits and words

What the readers of numbers and of words find where the format puts a number (`number_of_gives`) or
a word (`symbol_of_isWord`). A word is read level by level: at each length the reader knows how far
the bits so far lie behind the first word of that length, and `decode_of_word` carries this distance
from one length to the next.
-/

namespace TaskProbe.Gzip

/-! ## Taking bits -/

namespace Bits

/-- All bits that are left. -/
def toList (s : Bits) : List Bool := s.pending ++ bitsOf s.bytes

/-- Taking one bit after the other from `s` gives `bits` and leaves `t`. -/
def Gives (s : Bits) : List Bool → Bits → Prop
  | [], t => t = s
  | b :: bits, t => ∃ u, s.next = some (b, u) ∧ u.Gives bits t

variable {s t : Bits}

theorem gives_append {bits bits' : List Bool} :
    s.Gives (bits ++ bits') t ↔ ∃ u, s.Gives bits u ∧ u.Gives bits' t := by
  induction bits generalizing s with
  | nil => simp [Gives]
  | cons b bits ih =>
    simp only [List.cons_append, Gives, ih]
    constructor
    · rintro ⟨u, hu, v, hv, hv'⟩
      exact ⟨v, ⟨u, hu, hv⟩, hv'⟩
    · rintro ⟨v, ⟨u, hu, hv⟩, hv'⟩
      exact ⟨u, hu, v, hv, hv'⟩

theorem next_toList (s : Bits) :
    s.next = none ∧ s.toList = [] ∨ ∃ b t, s.next = some (b, t) ∧ s.toList = b :: t.toList := by
  match s with
  | ⟨[], []⟩ => exact .inl ⟨rfl, rfl⟩
  | ⟨[], b :: bytes⟩ => exact .inr ⟨_, _, rfl, rfl⟩
  | ⟨b :: pending, bytes⟩ => exact .inr ⟨_, _, rfl, rfl⟩

/-- What is left is taken from the front. -/
theorem exists_gives {bits more : List Bool} (h : s.toList = bits ++ more) :
    ∃ t, s.Gives bits t ∧ t.toList = more := by
  induction bits generalizing s with
  | nil => exact ⟨s, rfl, h⟩
  | cons b bits ih =>
    obtain ⟨-, hnil⟩ | ⟨c, u, hnext, hcons⟩ := next_toList s
    · rw [hnil] at h
      cases h
    · obtain ⟨rfl, hu⟩ := List.cons.inj (hcons.symm.trans h)
      obtain ⟨t, ht, hmore⟩ := ih hu
      exact ⟨t, ⟨u, hnext, ht⟩, hmore⟩

/-- What is taken and what is left are all bits that there were. -/
theorem Gives.toList {bits : List Bool} (h : s.Gives bits t) : s.toList = bits ++ t.toList := by
  induction bits generalizing s with
  | nil =>
    cases h
    rfl
  | cons b bits ih =>
    obtain ⟨u, hu, ht⟩ := h
    obtain ⟨hnone, -⟩ | ⟨c, v, hv, hlist⟩ := next_toList s
    · rw [hnone] at hu
      cases hu
    · cases hv.symm.trans hu
      rw [hlist, ih ht, List.cons_append]

theorem next_pending {b : Bool} (h : s.next = some (b, t)) (hs : s.pending.length < 8) :
    t.pending.length < 8 ∧ (1 + t.pending.length) % 8 = s.pending.length % 8 := by
  unfold next at h
  split at h
  · cases h
    simp only [List.length_cons] at hs ⊢
    omega
  · cases h
    simp [highBits]
  · cases h

/-- Where in a byte the reader stands after some bits. -/
theorem Gives.pending {bits : List Bool} (h : s.Gives bits t) (hs : s.pending.length < 8) :
    t.pending.length < 8 ∧ (bits.length + t.pending.length) % 8 = s.pending.length % 8 := by
  induction bits generalizing s with
  | nil =>
    cases h
    exact ⟨hs, by rw [List.length_nil, Nat.zero_add]⟩
  | cons b bits ih =>
    obtain ⟨u, hu, ht⟩ := h
    obtain ⟨hu8, hu⟩ := next_pending hu hs
    obtain ⟨ht8, ht⟩ := ih ht hu8
    refine ⟨ht8, ?_⟩
    rw [List.length_cons]
    omega

/-- The rest of the current byte is skipped. -/
theorem Gives.to_byte {pending gap : List Bool} {bytes : List UInt8}
    (h : (⟨pending, bytes⟩ : Bits).Gives gap t) (hgap : gap.length = pending.length) :
    t = .ofBytes bytes := by
  induction gap generalizing pending with
  | nil =>
    cases h
    rw [List.eq_nil_of_length_eq_zero hgap.symm, ofBytes]
  | cons b gap ih =>
    cases pending with
    | nil => cases hgap
    | cons c pending =>
      obtain ⟨u, hu, ht⟩ := h
      cases hu
      exact ih ht (Nat.succ.inj hgap)

theorem number_of_gives {bits : List Bool} (h : s.Gives bits t) :
    number bits.length s = .ok (lowFirst bits, t) := by
  induction bits generalizing s with
  | nil =>
    cases h
    rfl
  | cons b bits ih =>
    obtain ⟨u, hu, ht⟩ := h
    rw [List.length_cons, number, hu]
    dsimp only
    rw [ih ht]
    rfl

end Bits

/-! ## Whole bytes -/

theorem bitsOfByte_injective {a b : UInt8} (h : bitsOfByte a = bitsOfByte b) : a = b := by
  refine UInt8.toNat_inj.mp (Nat.eq_of_testBit_eq fun i => ?_)
  simp only [bitsOfByte, Bits.highBits, List.cons.injEq, and_true] at h
  obtain ⟨h₀, h₁, h₂, h₃, h₄, h₅, h₆, h₇⟩ := h
  rcases i with _ | _ | _ | _ | _ | _ | _ | _ | i
  · exact h₀
  · exact h₁
  · exact h₂
  · exact h₃
  · exact h₄
  · exact h₅
  · exact h₆
  · exact h₇
  · have hhigh : ∀ c : UInt8, c.toNat.testBit (i + 8) = false := fun c =>
      Nat.testBit_lt_two_pow (Nat.lt_of_lt_of_le c.toNat_lt
        (Nat.pow_le_pow_right (by decide) (Nat.le_add_left 8 i)))
    rw [hhigh, hhigh]

theorem bitsOf_append (a b : List UInt8) : bitsOf (a ++ b) = bitsOf a ++ bitsOf b :=
  List.flatMap_append

theorem length_bitsOf (bytes : List UInt8) : (bitsOf bytes).length = 8 * bytes.length := by
  induction bytes with
  | nil => rfl
  | cons b bytes ih =>
    change (bitsOfByte b ++ bitsOf bytes).length = _
    rw [List.length_append, ih, List.length_cons]
    change 8 + _ = _
    omega

theorem bitsOf_injective {a b : List UInt8} (h : bitsOf a = bitsOf b) : a = b := by
  induction a generalizing b with
  | nil =>
    have hlength := congrArg List.length h
    rw [length_bitsOf, length_bitsOf] at hlength
    exact (List.eq_nil_of_length_eq_zero (by rw [List.length_nil] at hlength; omega)).symm
  | cons x a ih =>
    cases b with
    | nil => cases h
    | cons y b =>
      have hbits : bitsOfByte x ++ bitsOf a = bitsOfByte y ++ bitsOf b := h
      obtain ⟨hx, ha⟩ := List.append_inj hbits rfl
      rw [bitsOfByte_injective hx, ih ha]

/-- Bytes that are taken from a whole byte on are the ones that stand there. -/
theorem Bits.Gives.bytes {bytes taken : List UInt8} {t : Bits}
    (h : (ofBytes bytes).Gives (bitsOf taken) t) :
    bytes = taken ++ t.bytes ∧ t = ofBytes t.bytes := by
  obtain ⟨ht, hmod⟩ := h.pending (Nat.zero_lt_succ 7)
  rw [length_bitsOf, ofBytes, List.length_nil] at hmod
  have hpending : t.pending = [] := List.eq_nil_of_length_eq_zero (by omega)
  have hbytes := h.toList
  rw [Bits.toList, Bits.toList, hpending, ofBytes, List.nil_append, List.nil_append,
    ← bitsOf_append] at hbytes
  exact ⟨bitsOf_injective hbytes, congrArg (Bits.mk · t.bytes) hpending⟩

/-- Whole bytes are left if a multiple of eight bits is. -/
theorem Bits.align_of_toList {s : Bits} (hs : s.pending.length < 8) {fill : List Bool}
    (hfill : fill.length < 8) {bytes : List UInt8} (h : s.toList = fill ++ bitsOf bytes) :
    s.pending = fill ∧ s.align = bytes := by
  have hlength := congrArg List.length h
  rw [Bits.toList, List.length_append, List.length_append, length_bitsOf, length_bitsOf] at hlength
  obtain ⟨hpending, hbytes⟩ := List.append_inj h (by omega)
  exact ⟨hpending, bitsOf_injective hbytes⟩

/-! ## One level of a code -/

section Levels

variable {levels : Code} {level : Level} {offset symbol : Nat} {b : Bool} {s u : Bits}

theorem Code.decode_found (hu : s.next = some (b, u))
    (h : level.symbols[2 * offset + b.toNat]? = some symbol) :
    decode offset (level :: levels) s = .ok (symbol, u) := by
  rw [decode, hu]
  dsimp only
  rw [h]

theorem Code.decode_longer (hu : s.next = some (b, u))
    (h : level.symbols.size ≤ 2 * offset + b.toNat)
    (hlater : 2 * offset + b.toNat - level.symbols.size < level.later) :
    decode offset (level :: levels) s
      = decode (2 * offset + b.toNat - level.symbols.size) levels u := by
  rw [decode, hu]
  dsimp only
  rw [Array.getElem?_eq_none h]
  exact if_neg (Nat.not_le.mpr hlater)

end Levels

/-! ## Words -/

section Words

variable {lengths : List Nat} {symbol n : Nat}

theorem countP_lt_succ (lengths : List Nat) (n : Nat) :
    lengths.countP (n < ·) = lengths.count (n + 1) + lengths.countP (n + 1 < ·) := by
  induction lengths with
  | nil => rfl
  | cons m lengths ih =>
    simp only [List.countP_cons, List.count_cons, decide_eq_true_eq, beq_iff_eq, ih]
    split <;> split <;> split <;> omega

theorem length_filter_zipIdx (lengths : List Nat) (n k : Nat) :
    ((lengths.zipIdx k).filter (·.1 == n)).length = lengths.count n := by
  induction lengths generalizing k with
  | nil => rfl
  | cons m lengths ih =>
    rw [List.zipIdx_cons, List.filter_cons, List.count_cons]
    split <;> simp only [List.length_cons, ih, Nat.add_zero]

theorem size_symbolsOf (lengths : List Nat) (n : Nat) :
    (Code.symbolsOf lengths n).toArray.size = lengths.count n := by
  rw [List.size_toArray, Code.symbolsOf, List.length_map, length_filter_zipIdx]

theorem getElem?_filter_zipIdx (h : lengths[symbol]? = some n) (k : Nat) :
    ((lengths.zipIdx k).filter (·.1 == n))[(lengths.take symbol).count n]?
      = some (n, symbol + k) := by
  induction lengths generalizing symbol k with
  | nil => cases h
  | cons m lengths ih =>
    cases symbol with
    | zero =>
      cases h
      simp
    | succ symbol =>
      have hindex : symbol + (k + 1) = symbol + 1 + k := by omega
      have hrest := ih h (k + 1)
      rw [hindex] at hrest
      rw [List.zipIdx_cons, List.filter_cons, List.take_succ_cons, List.count_cons]
      split
      · rwa [List.getElem?_cons_succ]
      · exact hrest

/-- A symbol stands behind those before it whose words have the same length. -/
theorem getElem?_symbolsOf (h : lengths[symbol]? = some n) :
    (Code.symbolsOf lengths n).toArray[(lengths.take symbol).count n]? = some symbol := by
  rw [List.getElem?_toArray, Code.symbolsOf, List.getElem?_map, getElem?_filter_zipIdx h 0]
  rfl

theorem count_take_lt (h : lengths[symbol]? = some n) :
    (lengths.take symbol).count n < lengths.count n := by
  rw [← size_symbolsOf lengths]
  exact (Array.getElem?_eq_some_iff.mp (getElem?_symbolsOf h)).1

/-- What is less than the number behind the words of one length stays less than the first word of a
greater length. -/
theorem highFirst_lt {a : Nat} {b : Bool} {word : List Bool} (h : a < pastWords lengths n) :
    highFirst a (b :: word) < 2 * pastWords lengths (n + word.length) := by
  have hb := b.toNat_le
  induction word generalizing a b n with
  | nil =>
    change 2 * a + b.toNat < 2 * pastWords lengths n
    omega
  | cons c word ih =>
    have hnext : 2 * a + b.toNat < pastWords lengths (n + 1) := by
      rw [pastWords]
      omega
    have := ih hnext c.toNat_le
    rwa [List.length_cons, Nat.add_comm word.length, ← Nat.add_assoc]

/-- Reading goes on at the length `n + 1` with `offset`, the distance of the bits so far behind the
words of the length `n`, and finds the symbol. That it does not stop before is the second part: less
than so many symbols have longer words. -/
theorem decode_of_word {s t : Bits} {b : Bool} {word : List Bool} {offset more : Nat}
    (hgives : s.Gives (b :: word) t) (hlength : lengths[symbol]? = some (n + word.length + 1))
    (hvalue : highFirst (pastWords lengths n + offset) (b :: word)
      = 2 * pastWords lengths (n + word.length)
        + (lengths.take symbol).count (n + word.length + 1)) :
    Code.decode offset (Code.levelsFrom lengths (n + 1) (word.length + 1 + more)) s
        = .ok (symbol, t) ∧ offset < lengths.countP (n < ·) := by
  -- on the bits that follow, with the length so far and the distance as they change
  induction word generalizing s b n offset with
  | nil =>
    obtain ⟨u, hu, rfl⟩ := hgives
    have hrank := count_take_lt hlength
    have hcount := countP_lt_succ lengths n
    have hoffset : 2 * offset + b.toNat = (lengths.take symbol).count (n + 1) := by
      change 2 * (pastWords lengths n + offset) + b.toNat
        = 2 * pastWords lengths n + (lengths.take symbol).count (n + 1) at hvalue
      omega
    refine ⟨?_, ?_⟩
    · rw [List.length_nil, Nat.zero_add, Nat.add_comm 1 more, Code.levelsFrom]
      refine Code.decode_found hu ?_
      rw [hoffset]
      exact getElem?_symbolsOf hlength
    · rw [List.length_nil, Nat.add_zero] at hrank
      omega
  | cons c word ih =>
    obtain ⟨u, hu, hgives⟩ := hgives
    have hcount := countP_lt_succ lengths n
    have hindex : n + (c :: word).length = n + 1 + word.length := by
      rw [List.length_cons, Nat.add_comm word.length, Nat.add_assoc]
    rw [hindex] at hlength hvalue
    -- the bits so far are no word yet: otherwise they would stay too small
    have hpast : pastWords lengths (n + 1) ≤ 2 * (pastWords lengths n + offset) + b.toNat := by
      refine Nat.le_of_not_lt fun hlt => ?_
      have hsmall : highFirst (2 * (pastWords lengths n + offset) + b.toNat) (c :: word)
          < 2 * pastWords lengths (n + 1 + word.length) := highFirst_lt hlt
      change highFirst (2 * (pastWords lengths n + offset) + b.toNat) (c :: word) = _ at hvalue
      omega
    rw [pastWords] at hpast
    have hbits : 2 * (pastWords lengths n + offset) + b.toNat
        = pastWords lengths (n + 1) + (2 * offset + b.toNat - lengths.count (n + 1)) := by
      rw [pastWords]
      omega
    change highFirst (2 * (pastWords lengths n + offset) + b.toNat) (c :: word) = _ at hvalue
    rw [hbits] at hvalue
    obtain ⟨hdecode, hlater⟩ := ih hgives hlength hvalue
    refine ⟨?_, by omega⟩
    have hsize := size_symbolsOf lengths (n + 1)
    rw [List.length_cons, Nat.add_right_comm, Code.levelsFrom]
    rw [Code.decode_longer hu (by dsimp only; omega) (by dsimp only; omega)]
    dsimp only
    rw [hsize]
    exact hdecode

/-- **The reader of words finds the symbol of the word.** -/
theorem symbol_of_isWord {s t : Bits} {word : List Bool} (h : IsWord lengths symbol word)
    (hgives : s.Gives word t) : (Code.ofLengths lengths).symbol s = .ok (symbol, t) := by
  obtain ⟨n, hn, hword, hlength, hvalue⟩ := h
  cases word with
  | nil => cases hword
  | cons b word =>
    obtain rfl := Nat.succ.inj hword
    rw [← Nat.zero_add word.length] at hlength hvalue
    have hmore : word.length + 1 + (Code.maxLength - (word.length + 1)) = Code.maxLength := by omega
    rw [Code.symbol, Code.ofLengths, ← hmore]
    exact (decode_of_word hgives hlength hvalue).1

end Words

end TaskProbe.Gzip
