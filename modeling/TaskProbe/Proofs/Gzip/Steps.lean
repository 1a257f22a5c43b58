import TaskProbe.Gzip.Inflate

/-!
# Steps of the decoder

One equation for each way a loop of the decoder can go on: a symbol of a block is a byte, its end or
a copy (`symbols_literal`, `symbols_end`, `symbols_copy`), a symbol among lengths is a length or a
run of them (`lengthsUpTo_length`, `lengthsUpTo_run`), and a block is followed by another one or not
(`blocks_step`). Proofs about whole streams go from step to step by these equations.
-/

namespace TaskProbe.Gzip

/-! ## Symbols of a block -/

/-- A copy is read in three parts: its length, the symbol of its distance, and its distance. -/
theorem reference_of {distances : Code} {symbol length d distance : Nat} {s t u v : Bits}
    (h₁ : based lengthBases (symbol - endOfBlock - 1) s = .ok (length, t))
    (h₂ : distances.symbol t = .ok (d, u)) (h₃ : based distanceBases d u = .ok (distance, v)) :
    reference distances symbol s = .ok ((length, distance), v) := by
  unfold reference
  rw [h₁]
  dsimp only
  rw [h₂]
  dsimp only
  rw [h₃]

section Symbols

variable {literals distances : Code} {out : Array UInt8} {s t : Bits} {symbol : Nat}

theorem symbols_literal (h : literals.symbol s = .ok (symbol, t)) (hlt : symbol < endOfBlock) :
    symbols literals distances out s = symbols literals distances (out.push symbol.toUInt8) t := by
  rw [symbols]
  split
  · next h' => rw [h] at h'; cases h'
  · next h' =>
    rw [h] at h'
    cases h'
    rw [if_pos hlt]

theorem symbols_end (h : literals.symbol s = .ok (endOfBlock, t)) :
    symbols literals distances out s = .ok (out, t) := by
  rw [symbols]
  split
  · next h' => rw [h] at h'; cases h'
  · next h' =>
    rw [h] at h'
    cases h'
    rw [if_neg (Nat.lt_irrefl _), if_pos rfl]

theorem symbols_copy {u : Bits} {length distance : Nat}
    (h : literals.symbol s = .ok (symbol, t)) (hlt : endOfBlock < symbol)
    (h' : reference distances symbol t = .ok ((length, distance), u)) :
    symbols literals distances out s
      = symbols literals distances (copyBack out distance length) u := by
  rw [symbols]
  split
  · next h'' => rw [h] at h''; cases h''
  · next h'' =>
    rw [h] at h''
    cases h''
    rw [if_neg (by omega), if_neg (by omega)]
    split
    · next h'' => rw [h'] at h''; cases h''
    · next h'' =>
      rw [h'] at h''
      cases h''
      rfl

end Symbols

/-! ## Lengths of words -/

/-- What a symbol above 15 repeats, how often at least, and how many bits say how often more. -/
def runOf (found : List Nat) (symbol : Nat) : Option (Nat × Nat × Nat) :=
  if symbol = 16 then found.head?.map fun last => (last, 3, 2)
  else if symbol = 17 then some (0, 3, 3)
  else some (0, 11, 7)

section Lengths

variable {code : Code} {total : Nat} {found : List Nat} {s t : Bits} {symbol : Nat}

theorem lengthsUpTo_full (h : found.length = total) :
    lengthsUpTo code total found s = .ok (found.reverse, s) := by
  rw [lengthsUpTo, if_pos h]

theorem lengthsUpTo_length (hlt : found.length < total) (h : code.symbol s = .ok (symbol, t))
    (hsymbol : symbol < 16) :
    lengthsUpTo code total found s = lengthsUpTo code total (symbol :: found) t := by
  rw [lengthsUpTo, if_neg (by omega), if_neg (by omega), h]
  exact if_pos hsymbol

theorem lengthsUpTo_run {u : Bits} {length least extra more : Nat} (hlt : found.length < total)
    (h : code.symbol s = .ok (symbol, t)) (hsymbol : ¬ symbol < 16)
    (hrun : runOf found symbol = some (length, least, extra))
    (hmore : Bits.number extra t = .ok (more, u)) :
    lengthsUpTo code total found s
      = lengthsUpTo code total (length :: List.replicate (least - 1 + more) length ++ found) u := by
  unfold runOf at hrun
  rw [lengthsUpTo, if_neg (by omega), if_neg (by omega), h]
  dsimp only
  rw [if_neg hsymbol, hrun]
  dsimp only
  rw [hmore]

end Lengths

/-- The codes that a block describes are read in five parts: three numbers, the words for lengths,
and the lengths. -/
theorem describedCodes_of {a b c : Nat} {given all : List Nat} {literals distances : Code}
    {s t u v w x : Bits} (h₁ : Bits.number 5 s = .ok (a, t)) (h₂ : Bits.number 5 t = .ok (b, u))
    (h₃ : Bits.number 4 u = .ok (c, v)) (hcounts : ¬ (286 < a + 257 ∨ 30 < b + 1))
    (h₄ : triples (c + 4) v = .ok (given, w))
    (hcomplete : Code.isComplete (inSymbolOrder given) = true)
    (h₅ : lengthsUpTo (Code.ofLengths (inSymbolOrder given)) (a + 257 + (b + 1)) [] w
      = .ok (all, x))
    (hliterals : blockCode (all.take (a + 257)) = .ok literals)
    (hdistances : blockCode (all.drop (a + 257)) = .ok distances) :
    describedCodes s = .ok ((literals, distances), x) := by
  rw [describedCodes, h₁]
  dsimp only
  rw [h₂]
  dsimp only
  rw [h₃]
  dsimp only
  rw [if_neg hcounts, h₄]
  dsimp only
  rw [if_neg (by rw [hcomplete]; decide), h₅]
  dsimp only
  rw [hliterals, hdistances]

/-! ## Blocks -/

/-- One block: its two fields, its content, and whether another block follows. -/
theorem blocks_step {out out' : Array UInt8} {s t u v : Bits} {last kind : Nat}
    (h₁ : Bits.number 1 s = .ok (last, t)) (h₂ : Bits.number 2 t = .ok (kind, u))
    (h₃ : blockContent kind out u = .ok (out', v)) :
    blocks out s = if last = 1 then .ok (out', v.align) else blocks out' v := by
  rw [blocks]
  split
  · next h => rw [h₁] at h; cases h
  next h =>
  rw [h₁] at h
  cases h
  split
  · next h => rw [h₂] at h; cases h
  next h =>
  rw [h₂] at h
  cases h
  split
  · next h => rw [h₃] at h; cases h
  next h =>
  rw [h₃] at h
  cases h
  rfl

end TaskProbe.Gzip
