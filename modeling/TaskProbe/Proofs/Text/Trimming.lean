import TaskProbe.Proofs.Text.Runs

/-!
# White space at the ends of a text

`IsTrimmed raw word` says what trimming is meant to give, without saying how it is done: some white
space, the word, some white space, and none of it belongs to the word. `trim` gives the one word that
this is true of (`isTrimmed_iff`), so white space that is added at either end does not matter
(`trim_around`).
-/

namespace TaskProbe.Text

/-- The text is `word` with white space around it, and `word` has none at its ends. -/
structure IsTrimmed (raw word : List Char) : Prop where
  around : ∃ before after, raw = before ++ (word ++ after) ∧
    isAllBlank before = true ∧ isAllBlank after = true
  first : StartsOutside isBlank word
  last : StartsOutside isBlank word.reverse

theorem isAllBlank_iff {s : List Char} : isAllBlank s = true ↔ ∀ c ∈ s, isBlank c = true :=
  List.all_eq_true

theorem isAllBlank_append {s t : List Char} (hs : isAllBlank s = true) (ht : isAllBlank t = true) :
    isAllBlank (s ++ t) = true := by
  rw [isAllBlank, List.all_append]
  exact Bool.and_eq_true_iff.mpr ⟨hs, ht⟩

/-- What is dropped from the front of a text is a run, and no more of the same kind follows it. -/
theorem startsOutside_dropWhile (p : Char → Bool) (s : List Char) :
    StartsOutside p (s.dropWhile p) := by
  intro c r hc
  have hhead := List.head?_dropWhile_not p s
  rw [hc] at hhead
  simpa using hhead

/-- Dropping from the front leaves the end as it is. -/
theorem startsOutside_reverse_dropWhile {p : Char → Bool} {s : List Char}
    (h : StartsOutside p s.reverse) : StartsOutside p (s.dropWhile p).reverse := by
  intro c r hc
  obtain ⟨t, ht⟩ := List.dropWhile_suffix p (l := s)
  have hs : s.reverse = c :: (r ++ t.reverse) := by
    rw [← ht, List.reverse_append, hc, List.cons_append]
  exact h c _ hs

theorem isTrimmed_trim (raw : List Char) : IsTrimmed raw (trim raw) := by
  have hfront := List.takeWhile_append_dropWhile (p := isBlank) (l := raw)
  have hback := List.takeWhile_append_dropWhile (p := isBlank)
    (l := (raw.dropWhile isBlank).reverse)
  constructor
  · refine ⟨raw.takeWhile isBlank, ((raw.dropWhile isBlank).reverse.takeWhile isBlank).reverse,
      ?_, List.all_takeWhile, ?_⟩
    · rw [trim, trimEnd, trimStart, ← List.reverse_append, hback, List.reverse_reverse, hfront]
    · rw [isAllBlank, List.all_reverse]
      exact List.all_takeWhile
  · rw [trim, trimEnd, trimStart]
    have hstart : StartsOutside isBlank (raw.dropWhile isBlank).reverse.reverse := by
      rw [List.reverse_reverse]
      exact startsOutside_dropWhile isBlank raw
    exact startsOutside_reverse_dropWhile hstart
  · rw [trim, trimEnd, List.reverse_reverse]
    exact startsOutside_dropWhile isBlank _

/-- Only one word is left when the white space at the ends is taken away. -/
theorem IsTrimmed.trim_eq {raw word : List Char} (h : IsTrimmed raw word) : trim raw = word := by
  obtain ⟨⟨before, after, rfl, hbefore, hafter⟩, hfirst, hlast⟩ := h
  have hbefore := isAllBlank_iff.mp hbefore
  have hafter : ∀ c ∈ after.reverse, isBlank c = true := by
    intro c hc
    exact isAllBlank_iff.mp hafter c (List.mem_reverse.mp hc)
  rw [trim, trimEnd, trimStart]
  cases word with
  | nil =>
    have hall : ∀ c ∈ before ++ after, isBlank c = true := by
      intro c hc
      rcases List.mem_append.mp hc with hc | hc
      · exact hbefore c hc
      · exact hafter c (List.mem_reverse.mpr hc)
    have hdrop := dropWhile_run hall startsOutside_nil
    rw [List.append_nil] at hdrop
    rw [List.nil_append, hdrop]
    rfl
  | cons c word =>
    have hstart : StartsOutside isBlank (c :: word ++ after) :=
      startsOutside_cons (hfirst c word rfl)
    rw [dropWhile_run hbefore hstart, List.reverse_append, dropWhile_run hafter hlast,
      List.reverse_reverse]

theorem isTrimmed_iff {raw word : List Char} : IsTrimmed raw word ↔ trim raw = word := by
  constructor
  · exact IsTrimmed.trim_eq
  · rintro rfl
    exact isTrimmed_trim raw

/-- White space around a text does not change what is left of it. -/
theorem trim_around (raw : List Char) {before after : List Char}
    (hbefore : isAllBlank before = true) (hafter : isAllBlank after = true) :
    trim (before ++ (raw ++ after)) = trim raw := by
  obtain ⟨⟨before', after', hraw, hbefore', hafter'⟩, hfirst, hlast⟩ := isTrimmed_trim raw
  refine IsTrimmed.trim_eq ⟨⟨before ++ before', after' ++ after, ?_,
    isAllBlank_append hbefore hbefore', isAllBlank_append hafter' hafter⟩, hfirst, hlast⟩
  calc before ++ (raw ++ after)
      = before ++ ((before' ++ (trim raw ++ after')) ++ after) := by rw [← hraw]
    _ = before ++ before' ++ (trim raw ++ (after' ++ after)) := by simp only [List.append_assoc]

end TaskProbe.Text
