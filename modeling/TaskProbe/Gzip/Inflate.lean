import TaskProbe.Gzip.Huffman

/-!
# Inflate

Reading the DEFLATE format: blocks of bytes as they are, or of symbols in a fixed code or in one that
the block describes. The output is one growing array; a reference to earlier output that reaches
behind its start finds zeros there.

## Termination

The loops over symbols and blocks end because every symbol and every block takes at least one bit
(`Bits.size`); the loop over the described lengths ends because every step adds a length.
-/

namespace TaskProbe.Gzip

/-! ## Copies of earlier output -/

/-- Appends `length` bytes, each a copy of the one `distance` bytes before it. -/
def copyBack (out : Array UInt8) (distance : Nat) : Nat → Array UInt8
  | 0 => out
  | length + 1 =>
    let b := if distance ≤ out.size then out.getD (out.size - distance) 0 else 0
    copyBack (out.push b) distance length

/-- The least length of each length symbol, with the number of extra bits. -/
def lengthBases : List (Nat × Nat) :=
  [(3, 0), (4, 0), (5, 0), (6, 0), (7, 0), (8, 0), (9, 0), (10, 0), (11, 1), (13, 1), (15, 1),
    (17, 1), (19, 2), (23, 2), (27, 2), (31, 2), (35, 3), (43, 3), (51, 3), (59, 3), (67, 4),
    (83, 4), (99, 4), (115, 4), (131, 5), (163, 5), (195, 5), (227, 5), (258, 0)]

/-- The least distance of each distance symbol, with the number of extra bits. -/
def distanceBases : List (Nat × Nat) :=
  [(1, 0), (2, 0), (3, 0), (4, 0), (5, 1), (7, 1), (9, 2), (13, 2), (17, 3), (25, 3), (33, 4),
    (49, 4), (65, 5), (97, 5), (129, 6), (193, 6), (257, 7), (385, 7), (513, 8), (769, 8),
    (1025, 9), (1537, 9), (2049, 10), (3073, 10), (4097, 11), (6145, 11), (8193, 12), (12289, 12),
    (16385, 13), (24577, 13)]

/-- The number that the symbol and its extra bits stand for. -/
def based (bases : List (Nat × Nat)) (symbol : Nat) (s : Bits) :
    Except DeflateFault (Nat × Bits) :=
  match bases[symbol]? with
  | none => .error .corrupt
  | some (base, extra) =>
    match Bits.number extra s with
    | .error e => .error e
    | .ok (more, s) => .ok (base + more, s)

theorem based_size {bases : List (Nat × Nat)} {symbol : Nat} {s : Bits} {x : Nat × Bits}
    (h : based bases symbol s = .ok x) : x.2.size ≤ s.size := by
  unfold based at h
  split at h
  · cases h
  · split at h
    · cases h
    · next hn => cases h; have := Bits.number_size hn; dsimp only at *; omega

/-- The symbol that ends a block. -/
def endOfBlock : Nat := 256

/-- A copy: its length, given by the symbol, and its distance. -/
def reference (distances : Code) (symbol : Nat) (s : Bits) :
    Except DeflateFault ((Nat × Nat) × Bits) :=
  match based lengthBases (symbol - endOfBlock - 1) s with
  | .error e => .error e
  | .ok (length, s) =>
    match distances.symbol s with
    | .error e => .error e
    | .ok (d, s) =>
      match based distanceBases d s with
      | .error e => .error e
      | .ok (distance, s) => .ok ((length, distance), s)

theorem reference_size {distances : Code} {symbol : Nat} {s : Bits} {x : (Nat × Nat) × Bits}
    (h : reference distances symbol s = .ok x) : x.2.size ≤ s.size := by
  unfold reference at h
  split at h
  · cases h
  · next h₁ =>
    have := based_size h₁
    split at h
    · cases h
    · next h₂ =>
      have := Code.decode_size h₂
      split at h
      · cases h
      · next h₃ =>
        have := based_size h₃
        cases h
        dsimp only at *
        omega

set_option maxRecDepth 8192 in
/-- The symbols of a block up to its end. -/
def symbols (literals distances : Code) (out : Array UInt8) (s : Bits) :
    Except DeflateFault (Array UInt8 × Bits) :=
  match _h : literals.symbol s with
  | .error e => .error e
  | .ok (symbol, t) =>
    if symbol < endOfBlock then symbols literals distances (out.push symbol.toUInt8) t
    else if symbol = endOfBlock then .ok (out, t)
    else
      match _h' : reference distances symbol t with
      | .error e => .error e
      | .ok ((length, distance), u) =>
        symbols literals distances (copyBack out distance length) u
termination_by s.size
decreasing_by
  · exact Code.decode_size _h
  · have h₁ := Code.decode_size _h
    have h₂ := reference_size _h'
    dsimp only at h₁ h₂
    omega

theorem symbols_size {literals distances : Code} {out : Array UInt8} {s : Bits}
    {x : Array UInt8 × Bits} (h : symbols literals distances out s = .ok x) :
    x.2.size < s.size := by
  fun_induction symbols literals distances out s with
  | case1 => cases h
  | case2 _ _ _ t h₁ _ ih =>
    have := Code.decode_size h₁
    have := ih h
    dsimp only at *
    omega
  | case3 _ _ t h₁ =>
    cases h
    exact Code.decode_size h₁
  | case4 => cases h
  | case5 _ _ _ t h₁ _ _ _ _ u h₂ ih =>
    have := Code.decode_size h₁
    have := reference_size h₂
    have := ih h
    dsimp only at *
    omega

/-! ## Codes -/

/-- The code of literals and lengths in blocks with fixed codes. -/
def fixedLiterals : Code :=
  Code.ofLengths (List.replicate 144 8 ++ List.replicate 112 9 ++ List.replicate 24 7
    ++ List.replicate 8 8)

/-- The code of distances in blocks with fixed codes. -/
def fixedDistances : Code := Code.ofLengths (List.replicate 30 5)

/-- The order in which the lengths of the words for lengths are given. -/
def lengthOrder : List Nat := [16, 17, 18, 0, 8, 7, 9, 6, 10, 5, 11, 4, 12, 3, 13, 2, 14, 1, 15]

/-- `n` numbers of three bits. -/
def triples : Nat → Bits → Except DeflateFault (List Nat × Bits)
  | 0, s => .ok ([], s)
  | n + 1, s =>
    match Bits.number 3 s with
    | .error e => .error e
    | .ok (x, s) =>
      match triples n s with
      | .error e => .error e
      | .ok (xs, s) => .ok (x :: xs, s)

theorem triples_size {n : Nat} {s : Bits} {x : List Nat × Bits} (h : triples n s = .ok x) :
    x.2.size ≤ s.size := by
  induction n generalizing s x with
  | zero => cases h; exact Nat.le_refl _
  | succ n ih =>
    unfold triples at h
    split at h
    · cases h
    · next h₁ =>
      have := Bits.number_size h₁
      split at h
      · cases h
      · next h₂ =>
        have := ih h₂
        cases h
        dsimp only at *
        omega

/-- The lengths in the order of their symbols; those not given are zero. -/
def inSymbolOrder (given : List Nat) : List Nat :=
  (List.range 19).map fun symbol => ((lengthOrder.zip given).lookup symbol).getD 0

/-- Reads lengths of words until there are `total` of them, in `code`, behind the ones in `found`,
which is in reverse order. The symbols above 15 repeat the last length or zero. -/
def lengthsUpTo (code : Code) (total : Nat) (found : List Nat) (s : Bits) :
    Except DeflateFault (List Nat × Bits) :=
  if found.length = total then .ok (found.reverse, s)
  else if total < found.length then .error .corrupt
  else
    match code.symbol s with
    | .error e => .error e
    | .ok (symbol, s) =>
      if symbol < 16 then lengthsUpTo code total (symbol :: found) s
      else
        let run : Option (Nat × Nat × Nat) :=
          if symbol = 16 then found.head?.map fun last => (last, 3, 2)
          else if symbol = 17 then some (0, 3, 3)
          else some (0, 11, 7)
        match run with
        | none => .error .corrupt
        | some (length, least, extra) =>
          match Bits.number extra s with
          | .error e => .error e
          | .ok (more, s) =>
            lengthsUpTo code total (length :: List.replicate (least - 1 + more) length ++ found) s
termination_by total - found.length
decreasing_by
  · simp only [List.length_cons]; omega
  · simp only [List.cons_append, List.length_cons, List.length_append, List.length_replicate]; omega

theorem lengthsUpTo_size {code : Code} {total : Nat} {found : List Nat} {s : Bits}
    {x : List Nat × Bits} (h : lengthsUpTo code total found s = .ok x) : x.2.size ≤ s.size := by
  fun_induction lengthsUpTo code total found s with
  | case1 => cases h; exact Nat.le_refl _
  | case2 => cases h
  | case3 => cases h
  | case4 _ _ _ _ _ _ h₁ _ ih =>
    have := Code.decode_size h₁
    have := ih h
    dsimp only at *
    omega
  | case5 => cases h
  | case6 => cases h
  | case7 _ _ _ _ _ _ h₁ _ _ _ _ _ _ _ _ h₂ ih =>
    have := Code.decode_size h₁
    have := Bits.number_size h₂
    have := ih h
    dsimp only at *
    omega

/-- A code of a block, which is complete unless at most one symbol has a word. -/
def blockCode (lengths : List Nat) : Except DeflateFault Code :=
  if Code.isComplete lengths || Code.used lengths ≤ 1 then .ok (Code.ofLengths lengths)
  else .error .corrupt

/-- The codes that a block describes, for literals and lengths and for distances. -/
def describedCodes (s : Bits) : Except DeflateFault ((Code × Code) × Bits) :=
  match Bits.number 5 s with
  | .error e => .error e
  | .ok (a, s) =>
  match Bits.number 5 s with
  | .error e => .error e
  | .ok (b, s) =>
  match Bits.number 4 s with
  | .error e => .error e
  | .ok (c, s) =>
  let literalCount := a + 257
  let distanceCount := b + 1
  if 286 < literalCount ∨ 30 < distanceCount then .error .corrupt else
  match triples (c + 4) s with
  | .error e => .error e
  | .ok (given, s) =>
  let lengths := inSymbolOrder given
  if Code.isComplete lengths = false then .error .corrupt else
  match lengthsUpTo (Code.ofLengths lengths) (literalCount + distanceCount) [] s with
  | .error e => .error e
  | .ok (all, s) =>
  match blockCode (all.take literalCount), blockCode (all.drop literalCount) with
  | .ok literals, .ok distances => .ok ((literals, distances), s)
  | _, _ => .error .corrupt

theorem describedCodes_size {s : Bits} {x : (Code × Code) × Bits}
    (h : describedCodes s = .ok x) : x.2.size ≤ s.size := by
  unfold describedCodes at h
  split at h
  · cases h
  next h₁ =>
  split at h
  · cases h
  next h₂ =>
  split at h
  · cases h
  next h₃ =>
  dsimp only at h
  split at h
  · cases h
  split at h
  · cases h
  next h₄ =>
  split at h
  · cases h
  split at h
  · cases h
  next h₅ =>
  have := Bits.number_size h₁
  have := Bits.number_size h₂
  have := Bits.number_size h₃
  have := triples_size h₄
  have := lengthsUpTo_size h₅
  split at h
  · cases h; dsimp only at *; omega
  · cases h

/-! ## Blocks -/

/-- The bytes of a block that is stored as it is: their number, the number again with all bits
turned, and the bytes. -/
def storedBytes (bytes : List UInt8) : Except DeflateFault (List UInt8 × List UInt8) :=
  match bytes with
  | a :: b :: c :: d :: rest =>
    let n := a.toNat + 256 * b.toNat
    if n + (c.toNat + 256 * d.toNat) ≠ 0xFFFF then .error .corrupt
    else if rest.length < n then .error .incomplete
    else .ok (rest.take n, rest.drop n)
  | _ => .error .incomplete

/-- The content of a block of the given kind. -/
def blockContent (kind : Nat) (out : Array UInt8) (s : Bits) :
    Except DeflateFault (Array UInt8 × Bits) :=
  match kind with
  | 0 =>
    match storedBytes s.align with
    | .error e => .error e
    | .ok (data, rest) => .ok (out ++ data, .ofBytes rest)
  | 1 => symbols fixedLiterals fixedDistances out s
  | 2 =>
    match describedCodes s with
    | .error e => .error e
    | .ok ((literals, distances), s) => symbols literals distances out s
  | _ => .error .corrupt

theorem storedBytes_length {bytes : List UInt8} {x : List UInt8 × List UInt8}
    (h : storedBytes bytes = .ok x) : x.2.length ≤ bytes.length := by
  unfold storedBytes at h
  split at h
  · dsimp only at h
    split at h
    · cases h
    · split at h
      · cases h
      · cases h
        simp only [List.length_drop, List.length_cons]
        omega
  · cases h

theorem blockContent_size {kind : Nat} {out : Array UInt8} {s : Bits} {x : Array UInt8 × Bits}
    (h : blockContent kind out s = .ok x) : x.2.size ≤ s.size := by
  unfold blockContent at h
  split at h
  · split at h
    · cases h
    · next h₁ =>
      have := storedBytes_length h₁
      cases h
      simp only [Bits.size, Bits.ofBytes, Bits.align, List.length_nil] at *
      omega
  · exact Nat.le_of_lt (symbols_size h)
  · split at h
    · cases h
    · next h₁ =>
      have := describedCodes_size h₁
      have := symbols_size h
      dsimp only at *
      omega
  · cases h

/-- The blocks up to the one marked as the last, behind the output so far, with the bytes after
them. -/
def blocks (out : Array UInt8) (s : Bits) : Except DeflateFault (Array UInt8 × List UInt8) :=
  match _h₁ : Bits.number 1 s with
  | .error e => .error e
  | .ok (last, t) =>
    match _h₂ : Bits.number 2 t with
    | .error e => .error e
    | .ok (kind, u) =>
      match _h₃ : blockContent kind out u with
      | .error e => .error e
      | .ok (out, v) => if last = 1 then .ok (out, v.align) else blocks out v
termination_by s.size
decreasing_by
  have := Bits.number_size _h₁
  have := Bits.number_size _h₂
  have := blockContent_size _h₃
  dsimp only at *
  omega

/-- The data that a sequence of blocks stands for, with the bytes after them. -/
def inflate (bytes : List UInt8) : Except DeflateFault (List UInt8 × List UInt8) :=
  match blocks #[] (.ofBytes bytes) with
  | .error e => .error e
  | .ok (out, rest) => .ok (out.toList, rest)

end TaskProbe.Gzip
