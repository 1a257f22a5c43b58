import TaskProbe.ContentCoding
import TaskProbe.Proofs.Gzip.Extent
import TaskProbe.Proofs.Text.Utf8

/-!
# Packed bodies

What is read from a body whose label says that it is plain or says nothing. Two facts decide: an
encoded text never starts like a gzip member (`isGzip_encode`), and whatever is unpacked does
(`isGzip_of_gunzip`), so a body without a label is unpacked exactly if it was packed.

What was packed is unpacked, whatever follows it (`unpack_written`), and a packed body that was cut
off is never taken for a whole one (`unpack_cut_off`).
-/

namespace TaskProbe

/-! ## Texts and members -/

theorem Gzip.isGzip_eq_true_iff {bytes : List UInt8} :
    Gzip.isGzip bytes = true ↔ ∃ rest, bytes = 0x1f :: 0x8b :: rest := by
  constructor
  · intro h
    unfold Gzip.isGzip at h
    split at h
    · exact ⟨_, rfl⟩
    · cases h
  · rintro ⟨rest, rfl⟩
    rfl

/-- No text starts like a gzip member: the first byte would be a whole character, and the second one
starts none. -/
theorem Text.Utf8.isGzip_encode (s : List Char) : Gzip.isGzip (encode s) = false := by
  rw [Bool.eq_false_iff]
  intro h
  obtain ⟨rest, hrest⟩ := Gzip.isGzip_eq_true_iff.mp h
  obtain ⟨t, ht⟩ := tail_encode hrest (by decide)
  exact absurd (head_encode ht.symm) (by decide)

/-! ## Bodies -/

namespace ContentCoding

theorem unpack_of_gunzip {body data : List UInt8} (h : Gzip.gunzip body = .ok data) :
    unpack body = .ok data := by
  rw [unpack, h]
  rfl

/-- A plain text is left as it is. -/
theorem decode_encode {label : Option (List Char)} (hl : ofLabel label = .identity)
    (t : List Char) : decode (Text.Utf8.encode t) label = .ok (Text.Utf8.encode t) := by
  rw [decode, hl]
  exact if_neg (by rw [Text.Utf8.isGzip_encode]; decide)

/-- A packed body is unpacked although its label does not say that it is packed. -/
theorem decode_of_sniffed {label : Option (List Char)} (hl : ofLabel label = .identity)
    {body data : List UInt8} (h : Gzip.gunzip body = .ok data) : decode body label = .ok data := by
  rw [decode, hl]
  exact (if_pos (Gzip.isGzip_of_gunzip h)).trans (unpack_of_gunzip h)

theorem decode_of_labelled {label : Option (List Char)} (hl : ofLabel label = .gzip)
    {body data : List UInt8} (h : Gzip.gunzip body = .ok data) : decode body label = .ok data := by
  rw [decode, hl]
  exact unpack_of_gunzip h

/-! ## Written members -/

/-- **What was packed is unpacked, whatever follows it and in whatever way it was compressed.** It
starts like a member and ends with the check sum and the length of the data. -/
theorem unpack_written (data rest : List UInt8) :
    Gzip.Compressor.stored.gzip data = Gzip.gzip data ∧
    ∀ c : Gzip.Compressor, Gzip.isGzip (c.gzip data) = true ∧
      (c.gzip data).drop ((c.gzip data).length - 8) = Gzip.littleEndian 4 (Gzip.crc32 data).toNat
        ++ Gzip.littleEndian 4 (data.length % 4294967296) ∧
      unpack (c.gzip data ++ rest) = .ok data := by
  refine ⟨rfl, fun c => ⟨?_, ?_, ?_⟩⟩
  · have hread := c.gunzip_gzip_append data []
    rw [List.append_nil] at hread
    exact Gzip.isGzip_of_gunzip hread
  · rw [Gzip.littleEndian_four_mod, ← Gzip.trailer, Gzip.Compressor.gzip, Gzip.member]
    refine List.drop_left' ?_
    simp only [List.length_append, Gzip.length_trailer, Nat.add_sub_cancel]
  · exact unpack_of_gunzip (c.gunzip_gzip_append data rest)

/-- One letter and a copy of it that is longer than what was written before, in the fixed codes. -/
theorem isCompressed_repeated :
    Gzip.IsCompressed [0x4b, 4, 3, 0] (List.replicate 6 97) := by
  have hletter : Gzip.IsWord Gzip.fixedLiteralLengths (97 : UInt8).toNat
      [true, false, false, true, false, false, false, true] := by decide +kernel
  have hlength : Gzip.IsWord Gzip.fixedLiteralLengths (Gzip.endOfBlock + 1 + 2)
      [false, false, false, false, false, true, true] := by decide +kernel
  have hdistance : Gzip.IsWord Gzip.fixedDistanceLengths 0 (List.replicate 5 false) := by
    decide +kernel
  have hend : Gzip.IsWord Gzip.fixedLiteralLengths Gzip.endOfBlock (List.replicate 7 false) := by
    decide +kernel
  have hfive : Gzip.IsBased Gzip.lengthBases (List.replicate 5 (97 : UInt8)).length 2 [] :=
    ⟨5, rfl, rfl⟩
  have hone : Gzip.IsBased Gzip.distanceBases 1 0 [] := ⟨1, rfl, rfl⟩
  have hcopy : Gzip.IsCopy ([] ++ [97]) 1 (List.replicate 5 97) :=
    ⟨by decide, by decide, by decide⟩
  have hsymbols := Gzip.IsSymbols.literal hletter
    (.copy hlength hfive hdistance hone hcopy (.done hend))
  exact ⟨_, [false, false], .last (.fixed hsymbols), by decide, by decide⟩

/-- A compressor that makes use of this repetition and stores all other data. -/
@[reducible]
def repeating : Gzip.Compressor where
  deflate data :=
    if data = List.replicate 6 97 then [0x4b, 4, 3, 0] else Gzip.deflateStored data
  isCompressed data := by
    split
    · next hdata =>
      rw [hdata]
      exact isCompressed_repeated
    · exact Gzip.Compressor.stored.isCompressed data

theorem unpack_written_repeated :
    repeating.gzip (List.replicate 6 97) = [0x1f, 0x8b, 8, 0, 0, 0, 0, 0, 0, 0xff, 0x4b, 4, 3, 0,
      0xf8, 0x19, 0xe4, 0x5a, 6, 0, 0, 0] ∧
    unpack [0x1f, 0x8b, 8, 0, 0, 0, 0, 0, 0, 0xff, 0x4b, 4, 3, 0, 0xf8, 0x19, 0xe4, 0x5a, 6, 0, 0,
      0, 7] = .ok (List.replicate 6 97) := by
  have hmember : repeating.gzip (List.replicate 6 97) = [0x1f, 0x8b, 8, 0, 0, 0, 0, 0, 0, 0xff,
      0x4b, 4, 3, 0, 0xf8, 0x19, 0xe4, 0x5a, 6, 0, 0, 0] := by decide +kernel
  have hread := ((unpack_written (List.replicate 6 97) [7]).2 repeating).2.2
  rw [hmember] at hread
  exact ⟨hmember, hread⟩

/-! ## Bodies that were cut off -/

theorem unpack_eq_ok_iff {body data : List UInt8} :
    unpack body = .ok data ↔ ∃ rest, Gzip.HasMember body data rest := by
  rw [← Gzip.gunzip_eq_ok_iff, unpack]
  cases Gzip.gunzip body with
  | error fault => exact ⟨nofun, nofun⟩
  | ok data' =>
    constructor
    · intro h
      exact congrArg Except.ok (Except.ok.inj h)
    · intro h
      exact congrArg Except.ok (Except.ok.inj h)

/-- Unpacking fails in one way only. -/
theorem unpack_eq_decode_error {body : List UInt8} (h : ∀ data, unpack body ≠ .ok data) :
    ∃ message, unpack body = .error (.decode message) := by
  cases hbody : Gzip.gunzip body with
  | error fault => exact ⟨_, by rw [unpack, hbody]; rfl⟩
  | ok data => exact absurd (unpack_of_gunzip hbody) (h data)

/-- **What is unpacked ends with the check sum and the length of the data; what follows does not
matter, and nothing is unpacked if a part is missing.** -/
theorem unpack_cut_off {body data : List UInt8} (h : unpack body = .ok data) :
    ∃ n ≤ body.length, 8 ≤ n ∧
      (body.take n).drop (n - 8) = Gzip.littleEndian 4 (Gzip.crc32 data).toNat
        ++ Gzip.littleEndian 4 (data.length % 4294967296) ∧
      (∀ m < n, ∃ message, unpack (body.take m) = .error (.decode message)) ∧
      ∀ rest, unpack (body.take n ++ rest) = .ok data := by
  obtain ⟨rest, hmember⟩ := unpack_eq_ok_iff.mp h
  obtain ⟨used, rfl, hused⟩ := hmember.atFront
  have htake : (used ++ rest).take used.length = used := List.take_left
  obtain ⟨front, hfront⟩ : Gzip.trailer data <:+ used :=
    List.suffix_append_self_iff.mp hmember.trailer_suffix
  have hlength : front.length + 8 = used.length := by
    rw [← hfront, List.length_append, Gzip.length_trailer]
  refine ⟨used.length, by simp, by omega, ?_, fun m hm => ?_, fun rest' => ?_⟩
  · rw [htake, Gzip.littleEndian_four_mod, ← Gzip.trailer, ← hfront]
    exact List.drop_left' (by rw [List.length_append, Gzip.length_trailer, Nat.add_sub_cancel])
  · refine unpack_eq_decode_error fun data' hdata' => ?_
    obtain ⟨rest', hshort⟩ := unpack_eq_ok_iff.mp hdata'
    exact hmember.not_hasMember_take (by rw [List.length_append]; omega) data' rest' hshort
  · rw [htake]
    exact unpack_eq_ok_iff.mpr ⟨rest', hused rest'⟩

/-- A member with a name, whose one block is in the fixed codes and has a copy in it, with one more
byte behind it. -/
def namedMember : List UInt8 :=
  [0x1f, 0x8b, 8, 8, 0, 0, 0, 0, 0, 3, 97, 0, 0x4b, 0x4c, 4, 1, 0, 0xf8, 0x19, 0xe4, 0x5a, 6, 0, 0,
    0, 7]

theorem unpack_cut_off_named :
    unpack namedMember = .ok (List.replicate 6 97) ∧
    ∃ n ≤ 26, 8 ≤ n ∧ (namedMember.take n).drop (n - 8) = [0xf8, 0x19, 0xe4, 0x5a, 6, 0, 0, 0] ∧
      (∀ m < n, ∃ message, unpack (namedMember.take m) = .error (.decode message)) ∧
      ∀ rest, unpack (namedMember.take n ++ rest) = .ok (List.replicate 6 97) := by
  have hread : (Gzip.gunzip namedMember).toOption = some (List.replicate 6 97) := by
    decide +kernel
  have hbody : unpack namedMember = .ok (List.replicate 6 97) := by
    cases h : Gzip.gunzip namedMember with
    | error fault => rw [h] at hread; cases hread
    | ok data => rw [h] at hread; cases hread; exact unpack_of_gunzip h
  have htrailer : Gzip.littleEndian 4 (Gzip.crc32 (List.replicate 6 97)).toNat
      ++ Gzip.littleEndian 4 ((List.replicate 6 (97 : UInt8)).length % 4294967296)
      = [0xf8, 0x19, 0xe4, 0x5a, 6, 0, 0, 0] := by decide +kernel
  obtain ⟨n, hn, h8, hend, hcut, hrest⟩ := unpack_cut_off hbody
  exact ⟨hbody, n, hn, h8, hend.trans htrailer, hcut, hrest⟩

end ContentCoding

end TaskProbe
