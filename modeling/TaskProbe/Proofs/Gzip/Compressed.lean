import TaskProbe.Proofs.Gzip.Steps
import TaskProbe.Proofs.Gzip.Words
import TaskProbe.Proofs.Text.Utf8

/-!
# Reading compressed data

Whatever is in the compressed format is read as the data that it stands for, and what follows is
left (`inflate_of_isCompressed`). The proof goes along the grammar: each of its relations has one
lemma that says what the reader does with bits of that kind, and the inductions are on the relation,
with one step of the reader for each of its cases.
-/

namespace TaskProbe.Gzip

variable {s t : Bits}

/-! ## Literals and copies -/

theorem based_of_isBased {bases : List (Nat × Nat)} {value symbol : Nat} {extra : List Bool}
    (h : IsBased bases value symbol extra) (hgives : s.Gives extra t) :
    based bases symbol s = .ok (value, t) := by
  obtain ⟨base, hbase, rfl⟩ := h
  rw [based, hbase]
  dsimp only
  rw [Bits.number_of_gives hgives]

theorem copyBack_of_isCopy {out added : List UInt8} {distance : Nat}
    (h : IsCopy out distance added) :
    copyBack out.toArray distance added.length = (out ++ added).toArray := by
  induction added generalizing out with
  | nil => rw [List.length_nil, copyBack, List.append_nil]
  | cons b added ih =>
    have hlt : out.length - distance < out.length := by
      have := h.pos
      have := h.reach
      omega
    have hb : out[out.length - distance]? = some b := by
      have := h.each 0 (Nat.zero_lt_succ _)
      rw [Nat.add_zero, List.getElem?_append_right (Nat.le_refl _), Nat.sub_self,
        List.getElem?_append_left hlt] at this
      exact this.symm
    -- what was added is output now, so a copy may go on in itself
    have hrest : IsCopy (out ++ [b]) distance added := by
      refine ⟨h.pos, ?_, fun i hi => ?_⟩
      · have := h.reach
        rw [List.length_append]
        omega
      · have := h.each (i + 1) (Nat.succ_lt_succ hi)
        rw [List.append_assoc, List.singleton_append, List.length_append, List.length_singleton]
        rwa [Nat.add_right_comm, Nat.add_assoc]
    have hread : out.toArray.getD (out.toArray.size - distance) 0 = b := by
      rw [Array.getD_eq_getD_getElem?, List.getElem?_toArray, List.size_toArray, hb]
      rfl
    rw [List.length_cons, copyBack, if_pos (by rw [List.size_toArray]; exact h.reach), hread,
      List.push_toArray, ih hrest, List.append_assoc, List.singleton_append]

theorem symbols_of_isSymbols {literals distances : List Nat} {out data : List UInt8}
    {bits : List Bool} (h : IsSymbols literals distances out bits data) (hgives : s.Gives bits t) :
    symbols (Code.ofLengths literals) (Code.ofLengths distances) out.toArray s
      = .ok (data.toArray, t) := by
  induction h generalizing s with
  | done hword => exact symbols_end (symbol_of_isWord hword hgives)
  | @literal out b word bits data hword hrest ih =>
    obtain ⟨u, hu, hgives⟩ := Bits.gives_append.mp hgives
    have hb : b.toNat.toUInt8 = b := UInt8.ofNat_toNat
    rw [symbols_literal (symbol_of_isWord hword hu) b.toNat_lt, List.push_toArray, hb]
    exact ih hgives
  | @copy out added i word extra distance j word' extra' bits data hword hlength hword' hdistance
      hcopy hrest ih =>
    obtain ⟨u₁, h₁, hgives⟩ := Bits.gives_append.mp hgives
    obtain ⟨u₂, h₂, hgives⟩ := Bits.gives_append.mp hgives
    obtain ⟨u₃, h₃, hgives⟩ := Bits.gives_append.mp hgives
    obtain ⟨u₄, h₄, hgives⟩ := Bits.gives_append.mp hgives
    have hindex : endOfBlock + 1 + i - endOfBlock - 1 = i := by omega
    have hreference : reference (Code.ofLengths distances) (endOfBlock + 1 + i) u₁
        = .ok ((added.length, distance), u₄) :=
      reference_of (by rw [hindex]; exact based_of_isBased hlength h₂) (symbol_of_isWord hword' h₃)
        (based_of_isBased hdistance h₄)
    rw [symbols_copy (symbol_of_isWord hword h₁) (by omega) hreference,
      copyBack_of_isCopy hcopy]
    exact ih hgives

/-! ## Described codes -/

theorem triples_of_gives {given : List (List Bool)} (hgiven : ∀ x ∈ given, x.length = 3)
    (hgives : s.Gives given.flatten t) : triples given.length s = .ok (given.map lowFirst, t) := by
  induction given generalizing s with
  | nil =>
    cases hgives
    rfl
  | cons x given ih =>
    rw [List.flatten_cons] at hgives
    obtain ⟨u, hu, hgives⟩ := Bits.gives_append.mp hgives
    have hnumber := Bits.number_of_gives hu
    rw [hgiven x List.mem_cons_self] at hnumber
    rw [List.length_cons, triples, hnumber]
    dsimp only
    rw [ih (fun y hy => hgiven y (List.mem_cons_of_mem x hy)) hgives]
    rfl

theorem IsLengths.length_le {code found all : List Nat} {bits : List Bool}
    (h : IsLengths code found bits all) : found.length ≤ all.length := by
  induction h with
  | done => exact Nat.le_refl _
  | length _ _ _ ih | run _ _ _ ih =>
    rw [List.length_append] at ih
    omega

theorem runOf_of_isRun {found : List Nat} {symbol n least width : Nat}
    (h : IsRun found symbol n least width) :
    16 ≤ symbol ∧ 0 < least ∧ runOf found.reverse symbol = some (n, least, width) := by
  cases h with
  | again hlast => exact ⟨by decide, by decide, by rw [runOf, List.head?_reverse, hlast]; rfl⟩
  | zeros => exact ⟨by decide, by decide, rfl⟩
  | manyZeros => exact ⟨by decide, by decide, rfl⟩

theorem lengthsUpTo_of_isLengths {code found all : List Nat} {bits : List Bool}
    (h : IsLengths code found bits all) (hgives : s.Gives bits t) :
    lengthsUpTo (Code.ofLengths code) all.length found.reverse s = .ok (all, t) := by
  induction h generalizing s with
  | @done all =>
    cases hgives
    rw [lengthsUpTo_full List.length_reverse, List.reverse_reverse]
  | @length found n word bits all hn hword hrest ih =>
    have hle := hrest.length_le
    rw [List.length_append, List.length_singleton] at hle
    obtain ⟨u, hu, hgives⟩ := Bits.gives_append.mp hgives
    rw [lengthsUpTo_length (by rw [List.length_reverse]; omega) (symbol_of_isWord hword hu) hn]
    have := ih hgives
    rwa [List.reverse_append] at this
  | @run found symbol n least word extra bits all hrun hword hrest ih =>
    obtain ⟨hsymbol, hleast, hrunOf⟩ := runOf_of_isRun hrun
    have hle := hrest.length_le
    rw [List.length_append, List.length_replicate] at hle
    obtain ⟨u, hu, hgives⟩ := Bits.gives_append.mp hgives
    obtain ⟨v, hv, hgives⟩ := Bits.gives_append.mp hgives
    rw [lengthsUpTo_run (by rw [List.length_reverse]; omega) (symbol_of_isWord hword hu)
      (by omega) hrunOf (Bits.number_of_gives hv)]
    have hreplicate : n :: List.replicate (least - 1 + lowFirst extra) n
        = List.replicate (least + lowFirst extra) n := by
      rw [← List.replicate_succ]
      congr 1
      omega
    have := ih hgives
    rwa [List.reverse_append, List.reverse_replicate, ← hreplicate] at this

theorem lookup_zip {order : List Nat} (hnodup : order.Nodup) {i symbol : Nat}
    (h : order[i]? = some symbol) (given : List Nat) :
    ((order.zip given).lookup symbol).getD 0 = given.getD i 0 := by
  induction order generalizing i given with
  | nil => cases h
  | cons x order ih =>
    obtain ⟨hx, hnodup⟩ := List.nodup_cons.mp hnodup
    cases given with
    | nil => simp
    | cons y given =>
      cases i with
      | zero =>
        cases h
        simp
      | succ i =>
        have hne : (symbol == x) = false :=
          beq_false_of_ne fun heq => hx (heq ▸ List.mem_of_getElem? h)
        rw [List.zip_cons_cons, List.lookup_cons, hne]
        exact ih hnodup h given

theorem inSymbolOrder_of_isOrdered {given code : List Nat} (h : IsOrdered given code) :
    inSymbolOrder given = code := by
  have hall : ∀ symbol < 19, symbol ∈ lengthOrder := by decide
  refine List.ext_getElem? fun symbol => ?_
  rw [inSymbolOrder, List.getElem?_map]
  by_cases hsymbol : symbol < 19
  · obtain ⟨i, hi⟩ := List.mem_iff_getElem?.mp (hall symbol hsymbol)
    rw [h.each i symbol hi, List.getElem?_range hsymbol]
    exact congrArg some (lookup_zip (by decide) hi given)
  · rw [List.getElem?_eq_none (by rw [List.length_range]; omega),
      List.getElem?_eq_none (by rw [h.length]; exact Nat.le_of_not_lt hsymbol)]
    rfl

theorem blockCode_of_isCode {lengths : List Nat} (h : IsCode lengths) :
    blockCode lengths = .ok (Code.ofLengths lengths) := by
  refine if_pos ?_
  rw [Bool.or_eq_true, decide_eq_true_eq]
  exact h

theorem describedCodes_of_isDescription {literals distances : List Nat} {bits : List Bool}
    (h : IsDescription literals distances bits) (hgives : s.Gives bits t) :
    describedCodes s = .ok ((Code.ofLengths literals, Code.ofLengths distances), t) := by
  obtain ⟨ha, hliterals, hmaxLiterals, hb, hdistances, hmaxDistances, hc, hgiven, htriples, hcode,
    hcomplete, hbits, hcodes, hcodes'⟩ := h
  rename_i a b c bits given code
  obtain ⟨u₁, h₁, hgives⟩ := Bits.gives_append.mp hgives
  obtain ⟨u₂, h₂, hgives⟩ := Bits.gives_append.mp hgives
  obtain ⟨u₃, h₃, hgives⟩ := Bits.gives_append.mp hgives
  obtain ⟨u₄, h₄, hgives⟩ := Bits.gives_append.mp hgives
  have h₁ := Bits.number_of_gives h₁
  have h₂ := Bits.number_of_gives h₂
  have h₃ := Bits.number_of_gives h₃
  have h₄ := triples_of_gives htriples h₄
  have h₅ := lengthsUpTo_of_isLengths hbits hgives
  have hliteralCount : lowFirst a + 257 = literals.length := by omega
  have hdistanceCount : lowFirst b + 1 = distances.length := by omega
  rw [ha] at h₁
  rw [hb] at h₂
  rw [hc] at h₃
  rw [hgiven, Nat.add_comm] at h₄
  rw [← inSymbolOrder_of_isOrdered hcode] at hcomplete h₅
  rw [List.length_append, List.reverse_nil, ← hliteralCount, ← hdistanceCount] at h₅
  refine describedCodes_of h₁ h₂ h₃ (by omega) h₄ hcomplete h₅ ?_ ?_
  · rw [hliteralCount, List.take_left, blockCode_of_isCode hcodes]
  · rw [hliteralCount, List.drop_left, blockCode_of_isCode hcodes']

/-! ## Blocks -/

theorem littleEndian_two (n : Nat) :
    littleEndian 2 n = [(n % 256).toUInt8, (n / 256 % 256).toUInt8] := rfl

theorem storedBytes_littleEndian {data : List UInt8} (h : data.length ≤ maxStored)
    (rest : List UInt8) :
    storedBytes (littleEndian 2 data.length ++ littleEndian 2 (maxStored - data.length)
      ++ data ++ rest) = .ok (data, rest) := by
  simp only [maxStored] at *
  simp only [littleEndian_two, List.cons_append, List.nil_append, storedBytes,
    Text.Utf8.toNat_toUInt8 (Nat.mod_lt _ (by decide : 0 < 256))]
  have hn : data.length % 256 + 256 * (data.length / 256 % 256) = data.length := by omega
  rw [hn, if_neg (by omega), if_neg (by simp), List.take_left, List.drop_left]

/-- The kind of a block and its content; `pos` says where in a byte the block starts. -/
theorem block_of_isBlock {pos : Nat} {out data : List UInt8} {bits : List Bool}
    (h : IsBlock pos out bits data) (hs : s.pending.length < 8)
    (hpos : (pos + s.pending.length) % 8 = 0) (hgives : s.Gives bits t) :
    ∃ kind u, Bits.number 2 s = .ok (kind, u) ∧
      blockContent kind out.toArray u = .ok (data.toArray, t) := by
  cases h with
  | @stored gap data hdata hgap hgapPos =>
    obtain ⟨u, hkind, hgives⟩ := Bits.gives_append.mp hgives
    obtain ⟨v, hskip, hgives⟩ := Bits.gives_append.mp hgives
    obtain ⟨hu, hmod⟩ := hkind.pending hs
    refine ⟨0, u, Bits.number_of_gives hkind, ?_⟩
    -- the gap and the rest of the current byte end at the same place and are shorter than a byte
    have hlength : gap.length = u.pending.length := by
      rw [List.length_cons, List.length_singleton] at hmod
      omega
    obtain rfl := Bits.Gives.to_byte hskip hlength
    obtain ⟨hbytes, ht⟩ := Bits.Gives.bytes hgives
    rw [blockContent, Bits.align, hbytes, storedBytes_littleEndian hdata]
    dsimp only
    rw [← ht]
    simp
  | fixed hbits =>
    obtain ⟨u, hkind, hgives⟩ := Bits.gives_append.mp hgives
    exact ⟨1, u, Bits.number_of_gives hkind, symbols_of_isSymbols hbits hgives⟩
  | described hcodes hbits =>
    obtain ⟨u, hkind, hgives⟩ := Bits.gives_append.mp hgives
    obtain ⟨v, hcodesGive, hgives⟩ := Bits.gives_append.mp hgives
    refine ⟨2, u, Bits.number_of_gives hkind, ?_⟩
    rw [blockContent, describedCodes_of_isDescription hcodes hcodesGive]
    exact symbols_of_isSymbols hbits hgives

theorem blocks_of_isBlocks {pos : Nat} {out data : List UInt8} {bits : List Bool}
    (h : IsBlocks pos out bits data) (hs : s.pending.length < 8)
    (hpos : (pos + s.pending.length) % 8 = 0) (hgives : s.Gives bits t) :
    blocks out.toArray s = .ok (data.toArray, t.align) := by
  induction h generalizing s with
  | last hblock =>
    obtain ⟨u, hu, hgives⟩ := hgives
    obtain ⟨hu8, hmod⟩ := Bits.next_pending hu hs
    obtain ⟨kind, v, hkind, hcontent⟩ := block_of_isBlock hblock hu8 (by omega) hgives
    have hmark : s.Gives [true] u := ⟨u, hu, rfl⟩
    have hlast : Bits.number 1 s = .ok (1, u) := Bits.number_of_gives hmark
    rw [blocks_step hlast hkind hcontent, if_pos rfl]
  | more hblock hrest ih =>
    obtain ⟨u, hu, hgives⟩ := hgives
    obtain ⟨hu8, hmod⟩ := Bits.next_pending hu hs
    obtain ⟨v, hv, hgives⟩ := Bits.gives_append.mp hgives
    obtain ⟨hv8, hmod'⟩ := hv.pending hu8
    obtain ⟨kind, w, hkind, hcontent⟩ := block_of_isBlock hblock hu8 (by omega) hv
    have hmark : s.Gives [false] u := ⟨u, hu, rfl⟩
    have hlast : Bits.number 1 s = .ok (0, u) := Bits.number_of_gives hmark
    rw [blocks_step hlast hkind hcontent, if_neg (by decide)]
    exact ih hv8 (by omega) hgives

/-- **Compressed data is read as what it stands for, whatever follows it.** -/
theorem inflate_of_isCompressed {bytes data : List UInt8} (h : IsCompressed bytes data)
    (rest : List UInt8) : inflate (bytes ++ rest) = .ok (data, rest) := by
  obtain ⟨bits, fill, hblocks, hfill, hbytes⟩ := h
  have hlist : (Bits.ofBytes (bytes ++ rest)).toList = bits ++ (fill ++ bitsOf rest) := by
    rw [Bits.toList, Bits.ofBytes, List.nil_append, bitsOf_append, hbytes, List.append_assoc]
  obtain ⟨t, hgives, ht⟩ := Bits.exists_gives hlist
  have h8 : (Bits.ofBytes (bytes ++ rest)).pending.length < 8 := Nat.zero_lt_succ 7
  obtain ⟨ht8, -⟩ := hgives.pending h8
  obtain ⟨-, halign⟩ := Bits.align_of_toList ht8 hfill ht
  rw [inflate, blocks_of_isBlocks hblocks h8 rfl hgives, halign]

end TaskProbe.Gzip
