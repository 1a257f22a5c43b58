import TaskProbe.Proofs.Json.Typed
import TaskProbe.Proofs.Json.Writing
import TaskProbe.Proofs.Text.Trimming
import TaskProbe.Task.Id

/-!
# Ids however they arrive

An id is the same whether it comes from the command line, with white space around it, or as a JSON
string in any spelling (`TaskId.read_alike`). Two conditions on characters meet here: what is trimmed
at the ends is white space, and what an id cannot hold is white space too, besides controls and the
signs that have a meaning in a URL. So nothing that trimming leaves can be lost later on.
-/

namespace TaskProbe

open Text

/-! ## The rule for ids -/

/-- A character that an id can hold. -/
def IsIdChar (c : Char) : Prop :=
  c ∉ ['/', '?', '#', '\\'] ∧ isBlank c = false ∧ isControl c = false

/-- A text that is an id. -/
structure IsId (word : List Char) : Prop where
  nonempty : word ≠ []
  notDots : word ≠ ['.'] ∧ word ≠ ['.', '.']
  chars : ∀ c ∈ word, IsIdChar c

theorem Rule.isForbiddenInSegment_eq_false_iff {c : Char} :
    isForbiddenInSegment c = false ↔ IsIdChar c := by
  simp [isForbiddenInSegment, IsIdChar, and_assoc]

theorem Rule.isForbiddenInSegment_eq_true_iff {c : Char} :
    isForbiddenInSegment c = true ↔ ¬ IsIdChar c := by
  rw [← isForbiddenInSegment_eq_false_iff, Bool.not_eq_false]

/-- A text of id characters has something to see in it, unless it is empty. -/
theorem isAllBlank_of_isIdChar {word : List Char} (hne : word ≠ [])
    (h : ∀ c ∈ word, IsIdChar c) : isAllBlank word = false := by
  obtain ⟨c, rest, rfl⟩ := List.exists_cons_of_ne_nil hne
  obtain ⟨-, hblank, -⟩ := h c List.mem_cons_self
  simp [isAllBlank, hblank]

theorem Rule.segment_eq_ok_iff {word : List Char} : segment word = .ok () ↔ IsId word := by
  unfold segment
  constructor
  · intro h
    split at h
    · cases h
    next hvisible =>
    split at h
    · cases h
    next hfind =>
    split at h
    · cases h
    next hdots =>
    have hchars : ∀ c ∈ word, IsIdChar c := by
      intro c hc
      rw [← isForbiddenInSegment_eq_false_iff, ← Bool.not_eq_true]
      exact List.find?_eq_none.mp hfind c hc
    refine ⟨?_, not_or.mp hdots, hchars⟩
    rintro rfl
    exact hvisible rfl
  · rintro ⟨hne, hdots, hchars⟩
    have hfind : word.find? isForbiddenInSegment = none := by
      rw [List.find?_eq_none]
      intro c hc
      rw [isForbiddenInSegment_eq_true_iff]
      exact not_not_intro (hchars c hc)
    rw [isAllBlank_of_isIdChar hne hchars, hfind]
    simp [hdots]

/-- The character that a text is refused for is the first one that an id cannot hold. -/
theorem Rule.segment_of_first {before after : List Char} {c : Char}
    (hbefore : ∀ d ∈ before, IsIdChar d) (hc : ¬ IsIdChar c)
    (hvisible : isAllBlank (before ++ c :: after) = false) :
    segment (before ++ c :: after) = .error (.badCharacter c) := by
  have hfind : (before ++ c :: after).find? isForbiddenInSegment = some c := by
    rw [List.find?_eq_some_iff_append]
    refine ⟨isForbiddenInSegment_eq_true_iff.mpr hc, before, after, rfl, ?_⟩
    intro d hd
    rw [isForbiddenInSegment_eq_false_iff.mpr (hbefore d hd)]
    rfl
  unfold segment
  rw [hvisible, hfind]
  rfl

/-- What trimming leaves is either nothing or something to see. -/
theorem isAllBlank_of_isTrimmed {raw word : List Char} (h : IsTrimmed raw word) (hne : word ≠ []) :
    isAllBlank word = false := by
  obtain ⟨c, rest, rfl⟩ := List.exists_cons_of_ne_nil hne
  simp [isAllBlank, h.first c rest rfl]

namespace TaskId

/-! ## Reading -/

theorem parse_of_isTrimmed {raw word : List Char} (h : IsTrimmed raw word) (hid : IsId word) :
    parse raw = .ok ⟨word, Rule.segment_eq_ok_iff.mpr hid⟩ := by
  have hword := h.trim_eq
  subst hword
  unfold parse
  dsimp only
  split
  · rfl
  · next hsegment => cases (Rule.segment_eq_ok_iff.mpr hid).symm.trans hsegment

theorem parse_of_breach {raw word : List Char} (h : IsTrimmed raw word) {breach : Breach}
    (hbreach : Rule.segment word = .error breach) :
    parse raw = .error (.invalidValue "task_id" (String.ofList word) breach.message) := by
  have hword := h.trim_eq
  subst hword
  unfold parse
  dsimp only
  split
  · next hsegment => cases hbreach.symm.trans hsegment
  · next hsegment =>
    cases hbreach.symm.trans hsegment
    rfl

/-- Reading looks at nothing but the text without the white space at its ends. -/
theorem parse_congr {raw raw' : List Char} (h : trim raw = trim raw') : parse raw = parse raw' := by
  have hraw : IsTrimmed raw (trim raw') := isTrimmed_iff.mpr h
  have hraw' := isTrimmed_trim raw'
  cases hsegment : Rule.segment (trim raw') with
  | ok _ =>
    have hid := Rule.segment_eq_ok_iff.mp hsegment
    rw [parse_of_isTrimmed hraw hid, parse_of_isTrimmed hraw' hid]
  | error breach => rw [parse_of_breach hraw hsegment, parse_of_breach hraw' hsegment]

theorem isId (id : TaskId) : IsId id.text := Rule.segment_eq_ok_iff.mp id.valid

theorem parse_text (id : TaskId) : parse id.text = .ok id := by
  have htrim : trim id.text = id.text := trim_eq_self fun c hc => (id.isId.chars c hc).2.1
  exact parse_of_isTrimmed (isTrimmed_iff.mpr htrim) id.isId

/-! ## JSON -/

section Json

open Json

/-- An id is read from a JSON string as it is read from the string's text. -/
theorem ofJson_of_spelling {raw : List Char} {t g g' : List UInt8}
    (h : Spelling (.string (String.ofList raw)) t) (hg : IsGap g) (hg' : IsGap g') :
    ofJson (g ++ (t ++ g')) = (parse raw).mapError .id := by
  obtain ⟨r, hread, hr⟩ := Typed.reads_string h hg g'
  rw [String.toList_ofList] at hread
  have hend := atEnd_of_isGap hg'
  rw [← hr] at hend
  unfold ofJson
  rw [hread]
  dsimp only
  cases parse raw with
  | error e => rfl
  | ok id =>
    dsimp only
    rw [hend]
    rfl

/-- An id is read back from the JSON that it is written as, in either layout. -/
theorem ofJson_toJson (id : TaskId) (layout : Layout) :
    ofJson (Utf8.encode (id.toJson.write layout)) = .ok id := by
  have hspelling : Spelling id.toJson (Utf8.encode (id.toJson.write layout)) :=
    spelling_write (.string _) (.string _) layout
  have hread := ofJson_of_spelling hspelling isGap_nil isGap_nil
  rw [List.nil_append, List.append_nil, parse_text] at hread
  exact hread

end Json

/-! ## All ways to read an id -/

/-- What reading a text as an id comes to, where `word` is the text without white space at its
ends. -/
structure ReadsAlike (raw word : List Char) : Prop where
  /-- The text is accepted if and only if the word is an id. -/
  accepted : (∃ id, parse raw = .ok id) ↔ IsId word
  /-- The id is the word. -/
  text : ∀ id, parse raw = .ok id → id.text = word
  /-- A text that is refused is named in the error, and so is the first character that an id cannot
  hold, if there is one. -/
  refused : ¬ IsId word → ∃ reason,
    parse raw = .error (.invalidValue "task_id" (String.ofList word) reason) ∧
    ∀ before c after, word = before ++ c :: after → (∀ d ∈ before, IsIdChar d) → ¬ IsIdChar c →
      reason = "Character " ++ String.ofList (quotedChar c) ++ " is not allowed in a path segment"
  /-- The text of an id is read as the id again. -/
  again : ∀ id, parse raw = .ok id → parse id.text = .ok id
  /-- White space around the text does not matter. -/
  around : ∀ before after, isAllBlank before = true → isAllBlank after = true →
    parse (before ++ (raw ++ after)) = parse raw
  /-- Every JSON spelling of the text is read as the text is, with the same id or the same error. -/
  json : ∀ t, Json.Spelling (.string (String.ofList raw)) t → ∀ g g', Json.IsGap g → Json.IsGap g' →
    ofJson (g ++ (t ++ g')) = (parse raw).mapError .id

/-- **An id means the same however it arrives**, and is read back from its own JSON. -/
theorem read_alike :
    (∀ raw, ∃ word, IsTrimmed raw word ∧ ReadsAlike raw word) ∧
      ∀ (id : TaskId) (layout : Json.Layout),
        ofJson (Utf8.encode (id.toJson.write layout)) = .ok id := by
  refine ⟨fun raw => ⟨trim raw, isTrimmed_trim raw, ?_⟩, ofJson_toJson⟩
  have htrimmed := isTrimmed_trim raw
  constructor
  case accepted =>
    constructor
    · rintro ⟨id, hparse⟩
      cases hsegment : Rule.segment (trim raw) with
      | ok _ => exact Rule.segment_eq_ok_iff.mp hsegment
      | error breach => cases hparse.symm.trans (parse_of_breach htrimmed hsegment)
    · intro hid
      exact ⟨_, parse_of_isTrimmed htrimmed hid⟩
  case text =>
    intro id hparse
    cases hsegment : Rule.segment (trim raw) with
    | ok _ =>
      have hid := Rule.segment_eq_ok_iff.mp hsegment
      cases hparse.symm.trans (parse_of_isTrimmed htrimmed hid)
      rfl
    | error breach => cases hparse.symm.trans (parse_of_breach htrimmed hsegment)
  case refused =>
    intro hid
    cases hsegment : Rule.segment (trim raw) with
    | ok _ => exact absurd (Rule.segment_eq_ok_iff.mp hsegment) hid
    | error breach =>
      refine ⟨breach.message, parse_of_breach htrimmed hsegment, ?_⟩
      intro before c after hword hbefore hc
      have hne : trim raw ≠ [] := by simp [hword]
      have hvisible := isAllBlank_of_isTrimmed htrimmed hne
      rw [hword] at hsegment hvisible
      cases hsegment.symm.trans (Rule.segment_of_first hbefore hc hvisible)
      rfl
  case again =>
    intro id _
    exact parse_text id
  case around =>
    intro before after hbefore hafter
    exact parse_congr (trim_around raw hbefore hafter)
  case json =>
    intro t ht g g' hg hg'
    exact ofJson_of_spelling ht hg hg'

end TaskId

end TaskProbe
