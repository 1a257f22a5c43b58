import TaskProbe.Text.Blank

/-!
# Runs at the ends of a list

Readers take the longest run of one kind off the front of what is unread. Where a list is known to be
such a run followed by something of another kind, `takeWhile` gives the run and `dropWhile` the rest.
-/

namespace TaskProbe

variable {α : Type} {p : α → Bool}

/-- A list that does not start with an element of the kind. -/
def StartsOutside (p : α → Bool) (s : List α) : Prop := ∀ x r, s = x :: r → p x = false

theorem startsOutside_nil : StartsOutside p [] := by
  intro x r h
  cases h

theorem startsOutside_cons {x : α} {s : List α} (h : p x = false) : StartsOutside p (x :: s) := by
  intro y r hy
  cases hy
  exact h

theorem startsOutside_of_forall {s : List α} (h : ∀ x ∈ s, p x = false) : StartsOutside p s := by
  rintro x r rfl
  exact h x List.mem_cons_self

theorem dropWhile_run {run rest : List α} (h : ∀ x ∈ run, p x = true)
    (hr : StartsOutside p rest) : (run ++ rest).dropWhile p = rest := by
  rw [List.dropWhile_append_of_pos h]
  cases rest with
  | nil => rfl
  | cons x rest => rw [List.dropWhile_cons, if_neg (by simp [hr x rest rfl])]

theorem takeWhile_run {run rest : List α} (h : ∀ x ∈ run, p x = true)
    (hr : StartsOutside p rest) : (run ++ rest).takeWhile p = run := by
  rw [List.takeWhile_append_of_pos h]
  cases rest with
  | nil => simp
  | cons x rest => rw [List.takeWhile_cons, if_neg (by simp [hr x rest rfl]), List.append_nil]

/-- What is dropped at both ends is what stands around the word. -/
theorem dropWhile_around {before word after : List α} (hb : ∀ x ∈ before, p x = true)
    (hw : ∀ x ∈ word, p x = false) (ha : ∀ x ∈ after, p x = true) :
    (((before ++ word ++ after).dropWhile p).reverse.dropWhile p).reverse = word := by
  have hrev : ∀ x ∈ after.reverse, p x = true := fun x hx => ha x (List.mem_reverse.mp hx)
  rw [List.append_assoc]
  cases word with
  | nil =>
    have hall : ∀ x ∈ before ++ after, p x = true := fun x hx =>
      (List.mem_append.mp hx).elim (hb x) (ha x)
    have hdrop := dropWhile_run hall startsOutside_nil
    rw [List.append_nil] at hdrop
    rw [List.nil_append, hdrop]
    rfl
  | cons c word =>
    have hc : StartsOutside p (c :: word ++ after) :=
      startsOutside_cons (hw c List.mem_cons_self)
    rw [dropWhile_run hb hc, List.reverse_append,
      dropWhile_run hrev (startsOutside_of_forall fun x hx => hw x (List.mem_reverse.mp hx)),
      List.reverse_reverse]

theorem Text.trim_eq_self {s : List Char} (h : ∀ c ∈ s, Text.isBlank c = false) :
    Text.trim s = s := by
  have htrim := @dropWhile_around _ Text.isBlank [] s [] (by simp) h (by simp)
  rwa [List.nil_append, List.append_nil] at htrim

end TaskProbe
