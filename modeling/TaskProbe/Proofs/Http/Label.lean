import TaskProbe.ContentCoding
import TaskProbe.Http.Message
import TaskProbe.Proofs.Text.Runs
import TaskProbe.Proofs.Text.Utf8

/-!
# Labels of packed bodies

How a response may say in which way its body is packed: the first field named `Content-Encoding`, in
any case of the name, holds a word in any case of its letters with blanks around it (`Labelled`). The
blanks are dropped with the field and the case of the letters when the label is read, so what is left
is the word alone (`lowerAscii_contentEncoding`).
-/

namespace TaskProbe.Http

open Text

/-! ## How a label is written -/

/-- The bytes of a field that holds a word: the word in any case of its ASCII letters, with spaces
and tabs around it. -/
inductive Padded (word : String) : List UInt8 → Prop where
  | mk {before letters after : List Char} (hb : ∀ c ∈ before, c = ' ' ∨ c = '\t')
      (hw : lowerAscii letters = word.toList) (ha : ∀ c ∈ after, c = ' ' ∨ c = '\t') :
      Padded word (Utf8.encode (before ++ letters ++ after))

/-- The name of a field that says how the body is packed, in any case of its letters. -/
def IsEncodingName (name : String) : Prop :=
  lowerAscii name.toList = lowerAscii "Content-Encoding".toList

instance : DecidablePred IsEncodingName := fun name =>
  inferInstanceAs (Decidable (lowerAscii name.toList = lowerAscii "Content-Encoding".toList))

/-- What the fields of a response say about how its body is packed: the word in the first field of
that name, or nothing. -/
inductive Labelled : List (String × List UInt8) → Option String → Prop where
  | absent : Labelled [] none
  | here {name : String} {value : List UInt8} {fields : List (String × List UInt8)} {word : String}
      (hn : IsEncodingName name) (hv : Padded word value) :
      Labelled ((name, value) :: fields) (some word)
  | later {field : String × List UInt8} {fields : List (String × List UInt8)}
      {word : Option String} (hn : ¬ IsEncodingName field.1) (h : Labelled fields word) :
      Labelled (field :: fields) word

/-- A character that can stand in the word of a label. -/
def IsVisible (c : Char) : Prop := 0x21 ≤ c.toNat ∧ c.toNat ≤ 0x7E

instance : DecidablePred IsVisible := fun c =>
  inferInstanceAs (Decidable (0x21 ≤ c.toNat ∧ c.toNat ≤ 0x7E))

/-! ## Characters of a label -/

theorem isVisible_of_all {s : List Char} (h : s.all (fun c => decide (IsVisible c)) = true) :
    ∀ c ∈ s, IsVisible c :=
  fun c hc => of_decide_eq_true (List.all_eq_true.mp h c hc)

theorem isVisible_of_toLower {c : Char} (h : IsVisible c.toLower) : IsVisible c := by
  unfold IsVisible Char.toLower at *
  split at h
  · next hc =>
    have hlo : 65 ≤ c.toNat := UInt32.le_iff_toNat_le.mp hc.1
    have hhi : c.toNat ≤ 90 := UInt32.le_iff_toNat_le.mp hc.2
    omega
  · exact h

theorem isVisible_of_lowerAscii {letters : List Char} {word : String}
    (hw : lowerAscii letters = word.toList) (hv : ∀ c ∈ word.toList, IsVisible c) :
    ∀ c ∈ letters, IsVisible c := by
  intro c hc
  refine isVisible_of_toLower (hv _ ?_)
  rw [← hw]
  exact List.mem_map_of_mem hc

theorem not_isBlank_of_isVisible {c : Char} (h : IsVisible c) : isBlank c = false := by
  unfold IsVisible at h
  simp only [isBlank, Bool.or_eq_false_iff, Bool.and_eq_false_iff, decide_eq_false_iff_not,
    beq_eq_false_iff_ne]
  omega

/-- A text of ASCII characters is one byte for each of them. -/
theorem encode_ascii : ∀ {s : List Char}, (∀ c ∈ s, c.toNat < 0x80) →
    Utf8.encode s = s.map fun c => c.toNat.toUInt8
  | [], _ => rfl
  | c :: s, h => by
    rw [Utf8.encode_cons, Utf8.encodeChar_ascii (h c List.mem_cons_self),
      encode_ascii fun x hx => h x (List.mem_cons_of_mem _ hx)]
    rfl

/-! ## Finding a label -/

open Response

theorem isFieldBlank_of_blank {c : Char} (h : c = ' ' ∨ c = '\t') :
    c.toNat < 0x80 ∧ isFieldBlank c.toNat.toUInt8 = true := by
  rcases h with rfl | rfl <;> decide

theorem byte_of_isVisible {c : Char} (h : IsVisible c) :
    isFieldBlank c.toNat.toUInt8 = false ∧ isTextByte c.toNat.toUInt8 = true ∧
      Char.ofNat c.toNat.toUInt8.toNat = c := by
  have hn : c.toNat.toUInt8.toNat = c.toNat := Utf8.toNat_toUInt8 (by have := h.2; omega)
  refine ⟨?_, ?_, by rw [hn, Char.ofNat_toNat]⟩
  · simp only [isFieldBlank, Bool.or_eq_false_iff, beq_eq_false_iff_ne, ne_eq,
      ← UInt8.toNat_inj, hn, UInt8.reduceToNat]
    have := h.1
    omega
  · simp only [isTextByte, Bool.or_eq_true, Bool.and_eq_true, decide_eq_true_eq,
      UInt8.le_iff_toNat_le, hn, UInt8.reduceToNat]
    exact Or.inr ⟨by have := h.1; omega, h.2⟩

/-- The value of a field without its blanks. -/
def stripField (value : List UInt8) : List UInt8 :=
  ((value.dropWhile isFieldBlank).reverse.dropWhile isFieldBlank).reverse

theorem stripField_padded {word : String} {value : List UInt8} (h : Padded word value)
    (hv : ∀ c ∈ word.toList, IsVisible c) : ∃ letters, lowerAscii letters = word.toList ∧
      stripField value = letters.map fun c => c.toNat.toUInt8 := by
  obtain ⟨hb, hw, ha⟩ := h
  rename_i before letters after
  have hletters := isVisible_of_lowerAscii hw hv
  refine ⟨letters, hw, ?_⟩
  have hascii : ∀ c ∈ before ++ letters ++ after, c.toNat < 0x80 := by
    intro c hc
    simp only [List.mem_append] at hc
    rcases hc with (hc | hc) | hc
    · exact (isFieldBlank_of_blank (hb c hc)).1
    · have := (hletters c hc).2; omega
    · exact (isFieldBlank_of_blank (ha c hc)).1
  rw [encode_ascii hascii, List.map_append, List.map_append]
  refine dropWhile_around ?_ ?_ ?_ <;> simp only [List.mem_map] <;> rintro b ⟨c, hc, rfl⟩
  · exact (isFieldBlank_of_blank (hb c hc)).2
  · exact (byte_of_isVisible (hletters c hc)).1
  · exact (isFieldBlank_of_blank (ha c hc)).2

theorem field?_of_absent {r : Response} (h : ∀ f ∈ r.fields, ¬ IsEncodingName f.1) :
    r.field? "Content-Encoding" = none := by
  rw [field?, List.find?_eq_none.mpr fun f hf hc => h f hf (beq_iff_eq.mp hc)]
  rfl

theorem not_isEncodingName_of_absent : ∀ {fields : List (String × List UInt8)},
    Labelled fields none → ∀ f ∈ fields, ¬ IsEncodingName f.1
  | [], _, f, hf => absurd hf List.not_mem_nil
  | _ :: _, .later hn h, f, hf => by
    rcases List.mem_cons.mp hf with rfl | hf
    · exact hn
    · exact not_isEncodingName_of_absent h f hf

/-- The first field of the name is the one that counts. -/
theorem find?_of_labelled {word : String} : ∀ {fields : List (String × List UInt8)},
    Labelled fields (some word) → ∃ field, Padded word field.2 ∧
      fields.find? (fun f => lowerAscii f.1.toList == lowerAscii "Content-Encoding".toList)
        = some field
  | _ :: _, .here hn hv => ⟨_, hv, List.find?_cons_of_pos (beq_iff_eq.mpr hn)⟩
  | f :: fields, .later hn h => by
    obtain ⟨field, hp, hf⟩ := find?_of_labelled h
    refine ⟨field, hp, ?_⟩
    rw [List.find?_cons, beq_eq_false_iff_ne.mpr hn]
    exact hf

theorem contentEncoding_of_absent {r : Response} (h : Labelled r.fields none) :
    r.contentEncoding = none := by
  rw [contentEncoding, textField?, field?_of_absent (not_isEncodingName_of_absent h)]
  rfl

/-- The letters of the word are all that is left of the field. -/
theorem contentEncoding_of_labelled {r : Response} {word : String}
    (h : Labelled r.fields (some word)) (hv : ∀ c ∈ word.toList, IsVisible c) :
    ∃ letters, lowerAscii letters = word.toList ∧ r.contentEncoding = some letters := by
  obtain ⟨field, hp, hf⟩ := find?_of_labelled h
  obtain ⟨letters, hw, hstrip⟩ := stripField_padded hp hv
  have hletters := isVisible_of_lowerAscii hw hv
  have htext : (letters.map fun c => c.toNat.toUInt8).all isTextByte = true := by
    simp only [List.all_map, List.all_eq_true, Function.comp]
    exact fun c hc => (byte_of_isVisible (hletters c hc)).2.1
  have hback : (letters.map fun c => c.toNat.toUInt8).map (fun b => Char.ofNat b.toNat)
      = letters := by
    rw [List.map_map]
    exact (List.map_congr_left fun c hc => (byte_of_isVisible (hletters c hc)).2.2).trans
      (List.map_id letters)
  refine ⟨letters, hw, ?_⟩
  have hfield : r.field? "Content-Encoding" = some (stripField field.2) := by
    rw [field?, hf]
    rfl
  rw [contentEncoding, textField?, hfield, hstrip, Option.filter_some, if_pos htext,
    Option.map_some, hback]

/-- Without blanks and in lower case, the label is the word. -/
theorem lowerAscii_contentEncoding {r : Response} {word : Option String}
    (h : Labelled r.fields word) (hv : ∀ c ∈ (word.getD "").toList, IsVisible c) :
    lowerAscii (trim (r.contentEncoding.getD [])) = (word.getD "").toList := by
  cases word with
  | none => rw [contentEncoding_of_absent h]; rfl
  | some w =>
    obtain ⟨letters, hw, hr⟩ := contentEncoding_of_labelled h hv
    have hletters := isVisible_of_lowerAscii hw hv
    rw [hr, Option.getD_some, trim_eq_self fun c hc => not_isBlank_of_isVisible (hletters c hc)]
    exact hw

end TaskProbe.Http
