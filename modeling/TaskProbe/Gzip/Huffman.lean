import TaskProbe.Gzip.Bits

/-!
# Canonical Huffman codes

A code is given by the length of the code word of each symbol. Words of one length are consecutive
numbers in the order of their symbols, and come after all shorter words. A word is read bit by bit:
at each length it is known how far it lies behind the first word of that length.
-/

namespace TaskProbe.Gzip

/-- The symbols with words of one length, and how many symbols have longer words. -/
structure Level where
  symbols : Array Nat
  later : Nat
  deriving DecidableEq, Repr

/-- A code: the levels of the lengths 1 to 15. -/
abbrev Code := List Level

namespace Code

/-- The greatest length of a word. -/
def maxLength : Nat := 15

/-- The symbols whose words have the length `n`. -/
def symbolsOf (lengths : List Nat) (n : Nat) : List Nat :=
  (lengths.zipIdx.filter (·.1 == n)).map (·.2)

/-- The levels from the length `n` on, `more` of them. -/
def levelsFrom (lengths : List Nat) (n : Nat) : Nat → Code
  | 0 => []
  | more + 1 =>
    ⟨(symbolsOf lengths n).toArray, lengths.countP (n < ·)⟩ :: levelsFrom lengths (n + 1) more

/-- The code with the given lengths; a symbol of length zero has no word. -/
def ofLengths (lengths : List Nat) : Code := levelsFrom lengths 1 maxLength

/-- The share of all bit sequences that start with a word, in units of `2 ^ -15`. -/
def share (lengths : List Nat) : Nat :=
  (lengths.filter (0 < ·)).foldl (fun total n => total + 1 <<< (maxLength - n)) 0

/-- Whether every sequence of bits starts with exactly one word. -/
def isComplete (lengths : List Nat) : Bool := share lengths == 1 <<< maxLength

/-- How many symbols have a word. -/
def used (lengths : List Nat) : Nat := lengths.countP (0 < ·)

/-- Reads one word; `offset` is the distance of the bits so far behind the first word of their
length. Bits that no word starts with are found as soon as they are read. -/
def decode (offset : Nat) : Code → Bits → Except DeflateFault (Nat × Bits)
  | [], _ => .error .corrupt
  | level :: levels, s =>
    match s.next with
    | none => .error .incomplete
    | some (b, s) =>
      let offset := 2 * offset + b.toNat
      match level.symbols[offset]? with
      | some symbol => .ok (symbol, s)
      | none =>
        let offset := offset - level.symbols.size
        if level.later ≤ offset then .error .corrupt else decode offset levels s

/-- Reads the symbol of one word. -/
def symbol (code : Code) (s : Bits) : Except DeflateFault (Nat × Bits) := decode 0 code s

theorem decode_size {offset : Nat} {code : Code} {s : Bits} {x : Nat × Bits}
    (h : decode offset code s = .ok x) : x.2.size < s.size := by
  induction code generalizing offset s with
  | nil => cases h
  | cons level levels ih =>
    unfold decode at h
    split at h
    · cases h
    · next hb =>
      have := Bits.next_size hb
      dsimp only at h
      split at h
      · cases h; dsimp only; omega
      · split at h
        · cases h
        · have := ih h; omega

end Code

end TaskProbe.Gzip
