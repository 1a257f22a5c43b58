import TaskProbe.Config.File

/-!
# Variables that a text names

What expanding does to the front of a text: a placeholder becomes the value of its variable, and every
other character stays. So the environment matters only in the variables that the text names
(`expand_congr`), and a configuration is the same whatever other variables there are
(`File.ofText_congr`).
-/

namespace TaskProbe.Config

/-! ## The front of a text -/

section Front

variable {env : Environment} {r name rest : List Char}

theorem eq_of_placeholderName? (h : placeholderName? r = some (name, rest)) :
    r = name ++ '\x7d' :: rest := by
  have hr := List.takeWhile_append_dropWhile (p := isNameChar) (l := r)
  unfold placeholderName? at h
  split at h
  · next hname hrest =>
    rw [hname, hrest] at hr
    split at h
    · cases h
      exact hr.symm
    · cases h
  · cases h

/-- A placeholder that is found stands at the front of the text, and the rest follows it. -/
theorem eq_writePlaceholder_append (h : placeholderName? r = some (name, rest)) :
    '$' :: '\x7b' :: r = writePlaceholder name ++ rest := by
  rw [eq_of_placeholderName? h, writePlaceholder]
  simp

theorem expand_placeholder (h : placeholderName? r = some (name, rest)) :
    expand env ('$' :: '\x7b' :: r)
      = (env (String.ofList name)).elim (writePlaceholder name) String.toList
        ++ expand env rest := by
  rw [expand]
  split
  · next h' =>
    cases h'.symm.trans h
    cases env (String.ofList name) <;> rfl
  · next h' => cases h'.symm.trans h

theorem expand_dollar (h : placeholderName? r = none) :
    expand env ('$' :: '\x7b' :: r) = '$' :: expand env ('\x7b' :: r) := by
  rw [expand]
  split
  · next h' => cases h'.symm.trans h
  · rfl

theorem expand_plain {c : Char} (h : ∀ t, c = '$' → r = '\x7b' :: t → False) :
    expand env (c :: r) = c :: expand env r := by
  rw [expand]
  exact h

end Front

/-! ## Variables that matter -/

/-- The text has a placeholder for the variable somewhere. -/
def Mentions (name : String) (s : List Char) : Prop := writePlaceholder name.toList <:+: s

theorem Mentions.of_suffix {name : String} {s t : List Char} (hs : Mentions name s) (h : s <:+ t) :
    Mentions name t :=
  hs.trans h.isInfix

/-- A text without the sign of placeholders names no variables. -/
theorem not_mentions_of_plain {name : String} {s : List Char} (h : '$' ∉ s) :
    ¬ Mentions name s :=
  fun hm => h (hm.subset (List.mem_cons_self ..))

/-- **Only the variables that are named matter.** -/
theorem expand_congr {env env' : Environment} {s : List Char}
    (h : ∀ name, Mentions name s → env name = env' name) : expand env s = expand env' s := by
  induction s using expand.induct with
  | case1 => rw [expand, expand]
  | case2 r name rest hname ih =>
    have htext := eq_writePlaceholder_append hname
    have hvalue : env (String.ofList name) = env' (String.ofList name) := by
      refine h _ ?_
      rw [Mentions, String.toList_ofList, htext]
      exact (List.prefix_append _ rest).isInfix
    -- what the rest mentions, the whole text mentions
    have hrest : expand env rest = expand env' rest := ih fun name' hname' =>
      h name' (hname'.of_suffix (htext ▸ List.suffix_append _ rest))
    rw [expand_placeholder hname, expand_placeholder hname, hvalue, hrest]
  | case3 r hname ih =>
    rw [expand_dollar hname, expand_dollar hname,
      ih fun name' hname' => h name' (hname'.of_suffix (List.suffix_cons _ _))]
  | case4 c r hplain ih =>
    rw [expand_plain hplain, expand_plain hplain,
      ih fun name' hname' => h name' (hname'.of_suffix (List.suffix_cons _ _))]

theorem File.ofText_congr {env env' : Environment} {s : List Char}
    (h : ∀ name, Mentions name s → env name = env' name) : ofText env s = ofText env' s := by
  rw [ofText, ofText, expand_congr h]

end TaskProbe.Config
