/-!
# Streams of bits

Bytes read bit by bit, the lowest bit of each byte first. Reading takes bits off the front and tells
apart data that has ended from data that is wrong. `Bits.size` counts the bits that are left; every
reader has a lemma on it, and the loops of the decoder end because of these lemmas.
-/

namespace TaskProbe.Gzip

/-- Why compressed data cannot be read. -/
inductive DeflateFault where
  | corrupt
  | incomplete
  deriving DecidableEq, Repr

/-- The bits that are left of the current byte, and the bytes after it. -/
structure Bits where
  pending : List Bool
  bytes : List UInt8
  deriving DecidableEq, Repr

namespace Bits

/-- The bits of whole bytes. -/
def ofBytes (bytes : List UInt8) : Bits := ⟨[], bytes⟩

/-- How many bits are left. -/
def size (s : Bits) : Nat := s.pending.length + 8 * s.bytes.length

/-- The bits of a byte after the lowest one. -/
def highBits (b : UInt8) : List Bool :=
  [b.toNat.testBit 1, b.toNat.testBit 2, b.toNat.testBit 3, b.toNat.testBit 4, b.toNat.testBit 5,
    b.toNat.testBit 6, b.toNat.testBit 7]

/-- The next bit. -/
def next : Bits → Option (Bool × Bits)
  | ⟨bit :: pending, bytes⟩ => some (bit, ⟨pending, bytes⟩)
  | ⟨[], b :: bytes⟩ => some (b.toNat.testBit 0, ⟨highBits b, bytes⟩)
  | ⟨[], []⟩ => none

theorem next_size {s t : Bits} {b : Bool} (h : s.next = some (b, t)) : t.size + 1 = s.size := by
  unfold next at h
  split at h
  · cases h; simp only [size, List.length_cons]; omega
  · cases h; simp only [size, highBits, List.length_cons, List.length_nil]; omega
  · cases h

/-- A number of `n` bits, the lowest first. -/
def number : Nat → Bits → Except DeflateFault (Nat × Bits)
  | 0, s => .ok (0, s)
  | n + 1, s =>
    match s.next with
    | none => .error .incomplete
    | some (b, s) =>
      match number n s with
      | .error e => .error e
      | .ok (value, s) => .ok (2 * value + b.toNat, s)

theorem number_size {n : Nat} {s : Bits} {x : Nat × Bits} (h : number n s = .ok x) :
    x.2.size + n = s.size := by
  induction n generalizing s x with
  | zero => cases h; rfl
  | succ n ih =>
    unfold number at h
    split at h
    · cases h
    · next hb =>
      have := next_size hb
      split at h
      · cases h
      · next hn =>
        cases h
        have := ih hn
        dsimp only at *
        omega

/-- The whole bytes that are left, without the rest of the current one. -/
def align (s : Bits) : List UInt8 := s.bytes

end Bits

end TaskProbe.Gzip
