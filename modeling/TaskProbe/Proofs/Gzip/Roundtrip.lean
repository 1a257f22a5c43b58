import TaskProbe.Proofs.Gzip.Compressed
import TaskProbe.Proofs.Outcomes

/-!
# Members there and back

What a header and a member are made of (`skipHeader_eq_ok_iff`, `gunzip_eq_ok_iff`), and that a
written member is read back whatever follows it (`Compressor.gunzip_gzip_append`), with any way of
compressing. `Compressor.stored` is the one
that `gzip` has: the data in stored blocks, as many as it takes.
-/

namespace TaskProbe.Gzip

/-! ## Little-endian numbers -/

/-- Four bytes hold a number of 32 bits. -/
theorem littleEndian_four_mod (n : Nat) :
    littleEndian 4 (n % 4294967296) = littleEndian 4 n := by
  have h₁ : n % 4294967296 % 256 = n % 256 := by omega
  have h₂ : n % 4294967296 / 256 % 256 = n / 256 % 256 := by omega
  have h₃ : n % 4294967296 / 256 / 256 % 256 = n / 256 / 256 % 256 := by omega
  have h₄ : n % 4294967296 / 256 / 256 / 256 % 256 = n / 256 / 256 / 256 % 256 := by omega
  simp only [littleEndian, h₁, h₂, h₃, h₄]

theorem length_littleEndian : ∀ k n : Nat, (littleEndian k n).length = k
  | 0, _ => rfl
  | k + 1, n => by rw [littleEndian, List.length_cons, length_littleEndian k (n / 256)]

theorem length_trailer (data : List UInt8) : (trailer data).length = 8 := by
  rw [trailer, List.length_append, length_littleEndian, length_littleEndian]

/-! ## Stored blocks -/

theorem bitsOf_storedBlock (last : Bool) (data : List UInt8) :
    bitsOf (storedBlock last data) = last :: ([false, false] ++ (List.replicate 5 false
      ++ bitsOf (littleEndian 2 data.length ++ littleEndian 2 (maxStored - data.length)
        ++ data))) := by
  cases last <;> rfl

/-- A stored block that starts at a whole byte is a block of the format. -/
theorem isBlock_storedBlock {pos : Nat} (hpos : pos % 8 = 0) (out : List UInt8) {data : List UInt8}
    (h : data.length ≤ maxStored) :
    IsBlock (pos + 1) out ([false, false] ++ (List.replicate 5 false
      ++ bitsOf (littleEndian 2 data.length ++ littleEndian 2 (maxStored - data.length)
        ++ data))) (out ++ data) := by
  refine .stored h (by decide) ?_
  rw [List.length_replicate]
  omega

theorem isBlocks_deflateStored (data : List UInt8) {pos : Nat} (hpos : pos % 8 = 0)
    (out : List UInt8) : IsBlocks pos out (bitsOf (deflateStored data)) (out ++ data) := by
  fun_induction deflateStored data generalizing pos out with
  | case1 data h =>
    rw [bitsOf_storedBlock]
    exact .last (isBlock_storedBlock hpos out h)
  | case2 data h ih =>
    have hlength : (data.take maxStored).length ≤ maxStored := List.length_take_le _ _
    have hblock := isBlock_storedBlock hpos out hlength
    have hall : out ++ data = out ++ data.take maxStored ++ data.drop maxStored := by
      rw [List.append_assoc, List.take_append_drop]
    rw [bitsOf_append, bitsOf_storedBlock, hall]
    refine .more hblock (ih ?_ (out ++ data.take maxStored))
    rw [List.length_append, List.length_append, length_bitsOf, List.length_replicate]
    change (pos + 1 + (2 + (5 + _))) % 8 = 0
    omega

/-- The data in stored blocks. -/
@[reducible]
def Compressor.stored : Compressor where
  deflate := deflateStored
  isCompressed data := ⟨bitsOf (deflateStored data), [], isBlocks_deflateStored data rfl [],
    Nat.zero_lt_succ 7, (List.append_nil _).symm⟩

/-! ## Headers -/

/-- The bytes of a header that are always there: three fixed ones, the flags and six that say
nothing about the data. -/
def IsStart (start : List UInt8) (flags : Flags) : Prop :=
  ∃ b about, start = 0x1f :: 0x8b :: 8 :: b :: about ∧ about.length = 6 ∧
    Flags.ofByte b = some flags

/-- What there is in a header: its start, and the fields that the flags announce. -/
theorem skipHeader_eq_ok_iff {bytes t : List UInt8} : skipHeader bytes = .ok t ↔
    ∃ start flags rest s₁ s₂ s₃, IsStart start flags ∧ bytes = start ++ rest ∧
      skipIf flags.extra skipExtra rest = .ok s₁ ∧ skipIf flags.name skipText s₁ = .ok s₂ ∧
      skipIf flags.comment skipText s₂ = .ok s₃ ∧
      skipIf flags.checkSum (skipHeaderSum bytes) s₃ = .ok t := by
  constructor
  · intro h
    unfold skipHeader at h
    split at h
    · next m₀ m₁ method b a₁ a₂ a₃ a₄ a₅ a₆ rest =>
      split at h
      · cases h
      next hfixed =>
      simp only [ne_eq, Decidable.not_not, Prod.mk.injEq] at hfixed
      obtain ⟨rfl, rfl, rfl⟩ := hfixed
      split at h
      · cases h
      next flags hflags =>
      simp only [bind_eq_ok_iff] at h
      obtain ⟨s₁, h₁, s₂, h₂, s₃, h₃, h₄⟩ := h
      exact ⟨_, flags, rest, s₁, s₂, s₃, ⟨b, [a₁, a₂, a₃, a₄, a₅, a₆], rfl, rfl, hflags⟩, rfl,
        h₁, h₂, h₃, h₄⟩
    · cases h
  · rintro ⟨start, flags, rest, s₁, s₂, s₃, ⟨b, about, rfl, habout, hflags⟩, rfl, h₁, h₂, h₃, h₄⟩
    match about, habout with
    | [a₁, a₂, a₃, a₄, a₅, a₆], _ =>
      simp only [List.cons_append, List.nil_append] at h₄ ⊢
      rw [skipHeader, if_neg (by decide), hflags]
      simp only [bind_eq_ok_iff]
      exact ⟨s₁, h₁, s₂, h₂, s₃, h₃, h₄⟩

theorem skipHeader_plainHeader (rest : List UInt8) :
    skipHeader (plainHeader ++ rest) = .ok rest := rfl

/-! ## Members -/

/-- A member that holds `data` stands at the start of the bytes, and `rest` follows it. -/
def HasMember (bytes data rest : List UInt8) : Prop :=
  ∃ s, skipHeader bytes = .ok s ∧ inflate s = .ok (data, trailer data ++ rest)

theorem gunzip_eq_ok_iff {bytes data : List UInt8} :
    gunzip bytes = .ok data ↔ ∃ rest, HasMember bytes data rest := by
  rw [gunzip, bind_eq_ok_iff]
  constructor
  · rintro ⟨s, hs, h⟩
    split at h
    · cases h
    next data' rest hi =>
    split at h
    · cases h
    split at h
    · next ht =>
      cases h
      refine ⟨rest.drop 8, s, hs, ?_⟩
      rw [← ht, List.take_append_drop]
      exact hi
    · cases h
  · rintro ⟨rest, s, hs, hi⟩
    have hlength := length_trailer data
    refine ⟨s, hs, ?_⟩
    rw [hi]
    dsimp only
    rw [if_neg (by rw [List.length_append]; omega), if_pos (List.take_left' hlength)]

/-- **A written member is read back, whatever follows it.** -/
theorem Compressor.gunzip_gzip_append (c : Compressor) (data rest : List UInt8) :
    gunzip (c.gzip data ++ rest) = .ok data := by
  refine gunzip_eq_ok_iff.mpr ⟨rest, c.deflate data ++ (trailer data ++ rest), ?_, ?_⟩
  · rw [Compressor.gzip, member, List.append_assoc, List.append_assoc, skipHeader_plainHeader]
  · exact inflate_of_isCompressed (c.isCompressed data) _

theorem gunzip_pack [c : Compressor] (data : List UInt8) : gunzip (pack data) = .ok data := by
  have h := c.gunzip_gzip_append data []
  rwa [List.append_nil] at h

/-- Whatever is read as a member starts like one. -/
theorem isGzip_of_gunzip {bytes data : List UInt8} (h : gunzip bytes = .ok data) :
    isGzip bytes = true := by
  obtain ⟨-, s, hs, -⟩ := gunzip_eq_ok_iff.mp h
  obtain ⟨start, flags, rest, -, -, -, ⟨b, about, rfl, -⟩, rfl, -⟩ := skipHeader_eq_ok_iff.mp hs
  rfl

end TaskProbe.Gzip
