import TaskProbe.Proofs.Gzip.Roundtrip
import TaskProbe.Proofs.Text.Runs

/-!
# How far a member reaches

Whatever is read as a member is read from a front part of the bytes, and it does not matter what
follows that part (`HasMember.atFront`). Each reader has this property for itself (`AtFront`), so
readers one after the other have it too (`AtFront.comp`), and the loops have it by induction over
their steps. The part ends with the trailer (`HasMember.trailer_suffix`), and no shorter part holds
a member (`HasMember.not_hasMember_take`): it would be read in the same way with the rest behind it.
-/

namespace TaskProbe.Gzip

/-- What is unread goes from `s` to `t` by a front part of `s`, whatever follows it; `R` says what
is read there. -/
def AtFront (R : List UInt8 → List UInt8 → Prop) (s t : List UInt8) : Prop :=
  ∃ used, s = used ++ t ∧ ∀ more, R (used ++ more) more

namespace AtFront

variable {P Q R : List UInt8 → List UInt8 → Prop} {s t u : List UInt8}

theorem refl (h : ∀ more, R more more) : AtFront R s s := ⟨[], rfl, h⟩

theorem imp (h : AtFront R s t) (hP : ∀ a b, R a b → P a b) : AtFront P s t := by
  obtain ⟨used, hs, hR⟩ := h
  exact ⟨used, hs, fun more => hP _ _ (hR more)⟩

/-- One after the other. -/
theorem comp (h : AtFront R s t) (h' : AtFront Q t u) :
    AtFront (fun a c => ∃ b, R a b ∧ Q b c) s u := by
  obtain ⟨used, rfl, hR⟩ := h
  obtain ⟨used', rfl, hQ⟩ := h'
  refine ⟨used ++ used', (List.append_assoc ..).symm, fun more => ⟨used' ++ more, ?_, hQ more⟩⟩
  rw [List.append_assoc]
  exact hR (used' ++ more)

end AtFront

/-! ## Bits -/

/-- The reader takes `x` off the front of the stream and leaves `t`, whatever bytes follow. -/
def Takes {α : Type} (read : Bits → Except DeflateFault (α × Bits)) (s : Bits) (x : α) (t : Bits) :
    Prop :=
  AtFront (fun a b => read ⟨s.pending, a⟩ = .ok (x, ⟨t.pending, b⟩)) s.bytes t.bytes

namespace Bits

theorem next_atFront {s t : Bits} {b : Bool} (h : s.next = some (b, t)) :
    AtFront (fun c d => next ⟨s.pending, c⟩ = some (b, ⟨t.pending, d⟩)) s.bytes t.bytes := by
  unfold next at h
  split at h
  · cases h
    exact .refl fun _ => rfl
  · next c bytes =>
    cases h
    exact ⟨[c], rfl, fun _ => rfl⟩
  · cases h

theorem number_takes {n value : Nat} {s t : Bits} (h : number n s = .ok (value, t)) :
    Takes (number n) s value t := by
  induction n generalizing s value t with
  | zero =>
    cases h
    exact .refl fun _ => rfl
  | succ n ih =>
    unfold number at h
    split at h
    · cases h
    next hb =>
    split at h
    · cases h
    next hn =>
    cases h
    refine ((next_atFront hb).comp (ih hn)).imp ?_
    rintro a c ⟨b, hab, hbc⟩
    rw [number, hab]
    dsimp only
    rw [hbc]

end Bits

/-! ## Symbols -/

theorem Code.decode_takes {code : Code} {offset symbol : Nat} {s t : Bits}
    (h : decode offset code s = .ok (symbol, t)) : Takes (decode offset code) s symbol t := by
  induction code generalizing offset s with
  | nil => cases h
  | cons level levels ih =>
    unfold decode at h
    split at h
    · cases h
    next hb =>
    have hnext := Bits.next_atFront hb
    dsimp only at h
    split at h
    · next hsymbol =>
      cases h
      refine hnext.imp fun a b hab => ?_
      rw [decode, hab]
      dsimp only
      rw [hsymbol]
    · next hsymbol =>
      split at h
      · cases h
      next hlater =>
      refine (hnext.comp (ih h)).imp ?_
      rintro a c ⟨b, hab, hbc⟩
      rw [decode, hab]
      dsimp only
      rw [hsymbol]
      dsimp only
      rw [if_neg hlater, hbc]

theorem based_takes {bases : List (Nat × Nat)} {symbol value : Nat} {s t : Bits}
    (h : based bases symbol s = .ok (value, t)) : Takes (based bases symbol) s value t := by
  unfold based at h
  split at h
  · cases h
  next hbase =>
  split at h
  · cases h
  next hn =>
  cases h
  refine (Bits.number_takes hn).imp fun a b hab => ?_
  rw [based, hbase]
  dsimp only
  rw [hab]

theorem reference_takes {distances : Code} {symbol : Nat} {x : Nat × Nat} {s t : Bits}
    (h : reference distances symbol s = .ok (x, t)) : Takes (reference distances symbol) s x t := by
  unfold reference at h
  split at h
  · cases h
  next h₁ =>
  split at h
  · cases h
  next h₂ =>
  split at h
  · cases h
  next h₃ =>
  cases h
  refine ((based_takes h₁).comp ((Code.decode_takes h₂).comp (based_takes h₃))).imp ?_
  rintro a d ⟨b, hab, c, hbc, hcd⟩
  exact reference_of hab hbc hcd

theorem symbols_takes {literals distances : Code} {out out' : Array UInt8} {s t : Bits}
    (h : symbols literals distances out s = .ok (out', t)) :
    Takes (symbols literals distances out) s out' t := by
  -- the steps need only what is read in front, so they hold with other bytes behind it
  fun_induction symbols literals distances out s with
  | case1 => cases h
  | case2 out s symbol u hsymbol hlt ih =>
    refine ((Code.decode_takes hsymbol).comp (ih h)).imp ?_
    rintro a c ⟨b, hab, hbc⟩
    rwa [symbols_literal hab hlt]
  | case3 out s u hsymbol =>
    cases h
    exact (Code.decode_takes hsymbol).imp fun a b hab => symbols_end hab
  | case4 => cases h
  | case5 out s symbol u hsymbol hlt hne length distance v href ih =>
    refine ((Code.decode_takes hsymbol).comp ((reference_takes href).comp (ih h))).imp ?_
    rintro a d ⟨b, hab, c, hbc, hcd⟩
    rwa [symbols_copy hab (by omega) hbc]

/-! ## Codes of a block -/

theorem triples_takes {n : Nat} {xs : List Nat} {s t : Bits} (h : triples n s = .ok (xs, t)) :
    Takes (triples n) s xs t := by
  induction n generalizing s xs t with
  | zero =>
    cases h
    exact .refl fun _ => rfl
  | succ n ih =>
    unfold triples at h
    split at h
    · cases h
    next h₁ =>
    split at h
    · cases h
    next h₂ =>
    cases h
    refine ((Bits.number_takes h₁).comp (ih h₂)).imp ?_
    rintro a c ⟨b, hab, hbc⟩
    rw [triples, hab]
    dsimp only
    rw [hbc]

theorem lengthsUpTo_takes {code : Code} {total : Nat} {found lengths : List Nat} {s t : Bits}
    (h : lengthsUpTo code total found s = .ok (lengths, t)) :
    Takes (lengthsUpTo code total found) s lengths t := by
  fun_induction lengthsUpTo code total found s with
  | case1 found s hfull =>
    cases h
    exact .refl fun _ => lengthsUpTo_full hfull
  | case2 => cases h
  | case3 => cases h
  | case4 found s hne hle symbol u hsymbol hlt ih =>
    refine ((Code.decode_takes hsymbol).comp (ih h)).imp ?_
    rintro a c ⟨b, hab, hbc⟩
    rwa [lengthsUpTo_length (by omega) hab hlt]
  | case5 => cases h
  | case6 => cases h
  | case7 found s hne hle symbol u hsymbol hge run length least extra hrun more v hmore ih =>
    refine ((Code.decode_takes hsymbol).comp ((Bits.number_takes hmore).comp (ih h))).imp ?_
    rintro a d ⟨b, hab, c, hbc, hcd⟩
    rwa [lengthsUpTo_run (by omega) hab hge hrun hbc]

theorem describedCodes_takes {codes : Code × Code} {s t : Bits}
    (h : describedCodes s = .ok (codes, t)) : Takes describedCodes s codes t := by
  unfold describedCodes at h
  split at h
  · cases h
  next h₁ =>
  split at h
  · cases h
  next h₂ =>
  split at h
  · cases h
  next h₃ =>
  dsimp only at h
  split at h
  · cases h
  next hcounts =>
  split at h
  · cases h
  next h₄ =>
  split at h
  · cases h
  next hcomplete =>
  split at h
  · cases h
  next h₅ =>
  split at h
  · next hliterals hdistances =>
    cases h
    refine ((Bits.number_takes h₁).comp ((Bits.number_takes h₂).comp ((Bits.number_takes h₃).comp
      ((triples_takes h₄).comp (lengthsUpTo_takes h₅))))).imp ?_
    rintro a f ⟨b, hab, c, hbc, d, hcd, e, hde, hef⟩
    exact describedCodes_of hab hbc hcd hcounts hde (Bool.of_not_eq_false hcomplete) hef hliterals
      hdistances
  · cases h

/-! ## Blocks -/

theorem storedBytes_atFront {bytes data rest : List UInt8}
    (h : storedBytes bytes = .ok (data, rest)) :
    AtFront (fun a b => storedBytes a = .ok (data, b)) bytes rest := by
  unfold storedBytes at h
  split at h
  · next a b c d tail =>
    dsimp only at h
    split at h
    · cases h
    next hn =>
    split at h
    · cases h
    next hlen =>
    cases h
    have hlength : (tail.take (a.toNat + 256 * b.toNat)).length = a.toNat + 256 * b.toNat := by
      rw [List.length_take]
      omega
    refine ⟨a :: b :: c :: d :: tail.take (a.toNat + 256 * b.toNat), ?_, fun more => ?_⟩
    · simp only [List.cons_append, List.take_append_drop]
    · simp only [List.cons_append, storedBytes, if_neg hn]
      rw [if_neg (by rw [List.length_append]; omega), List.take_left' hlength,
        List.drop_left' hlength]
  · cases h

theorem blockContent_takes {kind : Nat} {out out' : Array UInt8} {s t : Bits}
    (h : blockContent kind out s = .ok (out', t)) : Takes (blockContent kind out) s out' t := by
  unfold blockContent at h
  split at h
  · split at h
    · cases h
    next hstored =>
    cases h
    refine (storedBytes_atFront hstored).imp fun a b hab => ?_
    simp only [blockContent, Bits.align, hab]
    rfl
  · exact symbols_takes h
  · split at h
    · cases h
    next hcodes =>
    refine ((describedCodes_takes hcodes).comp (symbols_takes h)).imp ?_
    rintro a c ⟨b, hab, hbc⟩
    simp only [blockContent, hab, hbc]
  · cases h

theorem blocks_atFront {out out' : Array UInt8} {s : Bits} {rest : List UInt8}
    (h : blocks out s = .ok (out', rest)) :
    AtFront (fun a b => blocks out ⟨s.pending, a⟩ = .ok (out', b)) s.bytes rest := by
  fun_induction blocks out s with
  | case1 => cases h
  | case2 => cases h
  | case3 => cases h
  | case4 out s t kind u h₂ out₁ v h₃ h₁ =>
    cases h
    refine ((Bits.number_takes h₁).comp ((Bits.number_takes h₂).comp
      (blockContent_takes h₃))).imp ?_
    rintro a d ⟨b, hab, c, hbc, hcd⟩
    rw [blocks_step hab hbc hcd, if_pos rfl]
    rfl
  | case5 out s last t h₁ kind u h₂ out₁ v h₃ hlast ih =>
    refine ((Bits.number_takes h₁).comp ((Bits.number_takes h₂).comp
      ((blockContent_takes h₃).comp (ih h)))).imp ?_
    rintro a e ⟨b, hab, c, hbc, d, hcd, hde⟩
    rw [blocks_step hab hbc hcd, if_neg hlast]
    exact hde

theorem inflate_atFront {s rest data : List UInt8} (h : inflate s = .ok (data, rest)) :
    AtFront (fun a b => inflate a = .ok (data, b)) s rest := by
  unfold inflate at h
  split at h
  · cases h
  next hblocks =>
  cases h
  refine (blocks_atFront hblocks).imp fun a b hab => ?_
  rw [inflate, Bits.ofBytes]
  rw [Bits.ofBytes] at hab
  rw [hab]

/-! ## Headers -/

theorem skipExtra_atFront {s t : List UInt8} (h : skipExtra s = .ok t) :
    AtFront (fun a b => skipExtra a = .ok b) s t := by
  unfold skipExtra at h
  split at h
  · next a b tail =>
    dsimp only at h
    split at h
    · cases h
    next hlen =>
    cases h
    have hlength : (tail.take (ofLittleEndian [a, b])).length = ofLittleEndian [a, b] := by
      rw [List.length_take]
      omega
    refine ⟨a :: b :: tail.take (ofLittleEndian [a, b]), ?_, fun more => ?_⟩
    · simp only [List.cons_append, List.take_append_drop]
    · simp only [List.cons_append, skipExtra]
      rw [if_neg (by rw [List.length_append]; omega), List.drop_left' hlength]
  · cases h

theorem skipText_atFront {s t : List UInt8} (h : skipText s = .ok t) :
    AtFront (fun a b => skipText a = .ok b) s t := by
  unfold skipText at h
  dsimp only at h
  split at h
  · cases h
  next hlen =>
  split at h
  · cases h
  next c rest hdrop =>
  cases h
  have htext : ∀ b ∈ s.takeWhile (· ≠ 0), decide (b ≠ 0) = true :=
    List.all_eq_true.mp List.all_takeWhile
  have hend : decide (c ≠ 0) = false := by
    have := List.head?_dropWhile_not (· ≠ 0) s
    rwa [hdrop] at this
  refine ⟨s.takeWhile (· ≠ 0) ++ [c], ?_, fun more => ?_⟩
  · rw [List.append_assoc, List.singleton_append, ← hdrop, List.takeWhile_append_dropWhile]
  · have houtside := startsOutside_cons (p := fun b : UInt8 => b ≠ 0) (s := more) hend
    rw [List.append_assoc, List.singleton_append]
    unfold skipText
    dsimp only
    rw [takeWhile_run htext houtside, if_neg hlen, dropWhile_run htext houtside]

/-- The check sum of a header covers what stands in front of it, whatever follows it. -/
theorem skipHeaderSum_append (front : List UInt8) (a b : UInt8) (rest : List UInt8) :
    skipHeaderSum (front ++ a :: b :: rest) (a :: b :: rest)
      = if ofLittleEndian [a, b] = (crc32 front).toNat % 65536 then .ok rest
        else .error .checkSum := by
  have htake : (front ++ a :: b :: rest).take
      ((front ++ a :: b :: rest).length - (a :: b :: rest).length) = front := by
    rw [List.length_append, Nat.add_sub_cancel, List.take_left]
  simp only [skipHeaderSum, htake]

theorem skipHeaderSum_atFront {front s t : List UInt8} (h : skipHeaderSum (front ++ s) s = .ok t) :
    AtFront (fun a b => skipHeaderSum (front ++ a) a = .ok b) s t := by
  cases s with
  | nil => cases h
  | cons a s =>
    cases s with
    | nil => cases h
    | cons b rest =>
      rw [skipHeaderSum_append] at h
      split at h
      · next hsum =>
        cases h
        exact ⟨[a, b], rfl, fun more => (skipHeaderSum_append ..).trans (if_pos hsum)⟩
      · cases h

/-- A field that may be left out; how it is skipped may depend on all that is unread. -/
theorem skipIf_atFront {present : Bool} (skip : List UInt8 → List UInt8 → Except Fault (List UInt8))
    {s t : List UInt8} (hskip : skip s s = .ok t → AtFront (fun a b => skip a a = .ok b) s t)
    (h : skipIf present (skip s) s = .ok t) :
    AtFront (fun a b => skipIf present (skip a) a = .ok b) s t := by
  cases present with
  | false =>
    cases h
    exact .refl fun _ => rfl
  | true => exact hskip h

theorem skipHeader_atFront {bytes t : List UInt8} (h : skipHeader bytes = .ok t) :
    AtFront (fun a b => skipHeader a = .ok b) bytes t := by
  obtain ⟨start, flags, rest, s₁, s₂, s₃, hstart, rfl, h₁, h₂, h₃, h₄⟩ :=
    skipHeader_eq_ok_iff.mp h
  obtain ⟨fields, rfl, hfields⟩ := (skipIf_atFront (fun _ => skipExtra) skipExtra_atFront h₁).comp
    ((skipIf_atFront (fun _ => skipText) skipText_atFront h₂).comp
      (skipIf_atFront (fun _ => skipText) skipText_atFront h₃))
  -- the check sum is over all that stands in front of it, so that part is fixed from here on
  rw [← List.append_assoc] at h₄
  obtain ⟨sum, rfl, hsum⟩ :=
    skipIf_atFront (fun a => skipHeaderSum (start ++ fields ++ a)) skipHeaderSum_atFront h₄
  refine ⟨start ++ (fields ++ sum), by simp only [List.append_assoc], fun more => ?_⟩
  obtain ⟨t₁, h₁, t₂, h₂, h₃⟩ := hfields (sum ++ more)
  have h₄ := hsum more
  simp only [List.append_assoc] at h₄ ⊢
  exact skipHeader_eq_ok_iff.mpr
    ⟨start, flags, fields ++ (sum ++ more), t₁, t₂, sum ++ more, hstart, rfl, h₁, h₂, h₃, h₄⟩

/-! ## Members -/

namespace HasMember

variable {bytes data rest : List UInt8}

/-- Where a member ends is settled by the bytes. -/
theorem rest_unique {data' rest' : List UInt8} (h : HasMember bytes data rest)
    (h' : HasMember bytes data' rest') : rest = rest' := by
  obtain ⟨s, hs, hi⟩ := h
  obtain ⟨s', hs', hi'⟩ := h'
  cases hs.symm.trans hs'
  obtain ⟨hdata, hrest⟩ := Prod.mk.inj (Except.ok.inj (hi.symm.trans hi'))
  rw [hdata] at hrest
  exact List.append_cancel_left hrest

theorem atFront (h : HasMember bytes data rest) :
    AtFront (fun a b => HasMember a data b) bytes rest := by
  obtain ⟨s, hs, hi⟩ := h
  have htrailer : AtFront (fun a b => a = trailer data ++ b) (trailer data ++ rest) rest :=
    ⟨trailer data, rfl, fun _ => rfl⟩
  refine ((skipHeader_atFront hs).comp ((inflate_atFront hi).comp htrailer)).imp ?_
  rintro a d ⟨b, hab, c, hbc, rfl⟩
  exact ⟨b, hab, hbc⟩

/-- The check sum and the length of the data end a member. -/
theorem trailer_suffix (h : HasMember bytes data rest) : trailer data ++ rest <:+ bytes := by
  obtain ⟨s, hs, hi⟩ := h
  obtain ⟨header, hheader, -⟩ := skipHeader_atFront hs
  obtain ⟨blocks, hblocks, -⟩ := inflate_atFront hi
  exact ⟨header ++ blocks, by rw [hheader, hblocks, List.append_assoc]⟩

/-- A part in front of the end of a member holds no member. -/
theorem not_hasMember_take (h : HasMember bytes data rest) {m : Nat}
    (hm : m + rest.length < bytes.length) (data' rest' : List UInt8) :
    ¬ HasMember (bytes.take m) data' rest' := by
  intro hshort
  -- with the missing bytes behind it the shorter part would be read too, but end somewhere else
  obtain ⟨used, htake, hused⟩ := hshort.atFront
  have hwhole : HasMember bytes data' (rest' ++ bytes.drop m) := by
    have := hused (rest' ++ bytes.drop m)
    rwa [← List.append_assoc, ← htake, List.take_append_drop] at this
  have hrest := congrArg List.length (h.rest_unique hwhole)
  rw [List.length_append, List.length_drop] at hrest
  omega

end HasMember

end TaskProbe.Gzip
