import Mathlib.Data.List.Basic
import TaskProbe.Proofs.Config.Placeholders
import TaskProbe.Proofs.Text.Runs

/-!
# Placeholders one by one

Each placeholder is replaced for itself, whatever stands before and after it, and nothing else is
(`expand_placeholders`). The sign `$` stands only at the front of a placeholder, so no placeholder
reaches over one (`placeholderName?_append_dollar`), and a text can be expanded in two parts
wherever there is a `$` (`expand_append_dollar`).
-/

namespace TaskProbe.Config

/-! ## Names -/

/-- A text that can name a variable: a letter or an underscore, and after it also digits. -/
def isName : List Char → Bool
  | [] => false
  | c :: cs => isNameStart c && cs.all isNameChar

/-- What stands in place of the placeholder of a variable: its value if it is set, else the
placeholder itself. -/
def replacement (env : Environment) (name : String) : List Char :=
  (env name).elim (writePlaceholder name.toList) String.toList

theorem isNameChar_of_isName {name : List Char} (h : isName name = true) :
    ∀ c ∈ name, isNameChar c = true := by
  cases name with
  | nil => cases h
  | cons c cs =>
    simp only [isName, Bool.and_eq_true, List.all_eq_true] at h
    intro d hd
    rcases List.mem_cons.mp hd with rfl | hd
    · rw [isNameChar, h.1, Bool.true_or]
    · exact h.2 d hd

/-! ## Names in placeholders -/

theorem placeholderName?_of_isName {name : List Char} (h : isName name = true) (rest : List Char) :
    placeholderName? (name ++ '\x7d' :: rest) = some (name, rest) := by
  have hchars := isNameChar_of_isName h
  have hclose : StartsOutside isNameChar ('\x7d' :: rest) := startsOutside_cons (by decide)
  unfold placeholderName?
  rw [takeWhile_run hchars hclose, dropWhile_run hchars hclose]
  cases name with
  | nil => cases h
  | cons c cs =>
    simp only [isName, Bool.and_eq_true] at h
    simp only [h.1, if_true]

theorem isName_of_placeholderName? {r name rest : List Char}
    (h : placeholderName? r = some (name, rest)) : isName name = true := by
  unfold placeholderName? at h
  split at h
  · next c cs rest' hname hrest =>
    split at h
    · next hstart =>
      cases h
      have hchars : ∀ d ∈ c :: cs, isNameChar d = true := fun d hd =>
        List.all_eq_true.mp List.all_takeWhile d (hname ▸ hd)
      simp only [isName, hstart, Bool.true_and, List.all_eq_true]
      exact fun d hd => hchars d (List.mem_cons_of_mem _ hd)
    · cases h
  · cases h

/-- A placeholder that begins before a `$` also ends before it. -/
theorem placeholderName?_append_dollar (r s : List Char) :
    placeholderName? (r ++ '$' :: s)
      = (placeholderName? r).map fun x => (x.1, x.2 ++ '$' :: s) := by
  have hrun : ∀ c ∈ r.takeWhile isNameChar, isNameChar c = true :=
    List.all_eq_true.mp List.all_takeWhile
  have hr := List.takeWhile_append_dropWhile (p := isNameChar) (l := r)
  -- what follows the run of name characters in `r`, or the `$` if there is nothing
  have hrest : StartsOutside isNameChar (r.dropWhile isNameChar ++ '$' :: s) := by
    cases hd : r.dropWhile isNameChar with
    | nil => exact startsOutside_cons (by decide)
    | cons c t =>
      refine startsOutside_cons ?_
      have := List.head?_dropWhile_not isNameChar r
      rw [hd] at this
      simpa using this
  have htake := takeWhile_run hrun hrest
  have hdrop := dropWhile_run hrun hrest
  rw [← List.append_assoc, hr] at htake hdrop
  unfold placeholderName?
  rw [htake, hdrop]
  rcases r.takeWhile isNameChar with _ | ⟨c, cs⟩
  · rfl
  rcases r.dropWhile isNameChar with _ | ⟨d, t⟩
  · rfl
  by_cases hd : d = '\x7d'
  · subst hd
    by_cases hc : isNameStart c = true
    · simp [hc]
    · simp [hc]
  · simp [hd]

/-! ## Texts in two parts -/

variable {env : Environment}

/-- A text can be expanded in two parts wherever there is a `$`. -/
theorem expand_append_dollar (p s : List Char) :
    expand env (p ++ '$' :: s) = expand env p ++ expand env ('$' :: s) := by
  induction p using expand.induct with
  | case1 => rw [expand, List.nil_append, List.nil_append]
  | case2 r name rest hname ih =>
    have hname' : placeholderName? (r ++ '$' :: s) = some (name, rest ++ '$' :: s) := by
      rw [placeholderName?_append_dollar, hname, Option.map_some]
    rw [List.cons_append, List.cons_append, expand_placeholder hname', expand_placeholder hname,
      ih, List.append_assoc]
  | case3 r hname ih =>
    have hname' : placeholderName? (r ++ '$' :: s) = none := by
      rw [placeholderName?_append_dollar, hname, Option.map_none]
    rw [List.cons_append, List.cons_append, expand_dollar hname', expand_dollar hname,
      ← List.cons_append, ih, List.cons_append]
  | case4 c r hplain ih =>
    have hplain' : ∀ t, c = '$' → r ++ '$' :: s = '\x7b' :: t → False := by
      intro t hc ht
      cases r with
      | nil => cases ht
      | cons d r => exact hplain r hc (by rw [(List.cons.inj ht).1])
    rw [List.cons_append, expand_plain hplain', expand_plain hplain, ih, List.cons_append]

theorem expand_writePlaceholder {name : String} (h : isName name.toList = true) (s : List Char) :
    expand env (writePlaceholder name.toList ++ s) = replacement env name ++ expand env s := by
  have hname := placeholderName?_of_isName h s
  rw [← eq_writePlaceholder_append hname, expand_placeholder hname, String.ofList_toList]
  rfl

/-! ## Texts that stay -/

/-- A text stays where none of the variables that it names is set. -/
theorem expand_of_unset {s : List Char}
    (h : ∀ name, isName name.toList = true → Mentions name s → env name = none) :
    expand env s = s := by
  induction s using expand.induct with
  | case1 => rw [expand]
  | case2 r name rest hname ih =>
    have htext := eq_writePlaceholder_append hname
    have hunset : env (String.ofList name) = none := by
      refine h _ ?_ ?_
      · rw [String.toList_ofList]
        exact isName_of_placeholderName? hname
      · rw [Mentions, String.toList_ofList, htext]
        exact (List.prefix_append _ rest).isInfix
    have hrest : expand env rest = rest := ih fun name' hn hm =>
      h name' hn (hm.of_suffix (htext ▸ List.suffix_append _ rest))
    rw [expand_placeholder hname, hunset, hrest]
    exact htext.symm
  | case3 r hname ih =>
    rw [expand_dollar hname, ih fun name' hn hm => h name' hn (hm.of_suffix (List.suffix_cons _ _))]
  | case4 c r hplain ih =>
    rw [expand_plain hplain, ih fun name' hn hm => h name' hn (hm.of_suffix (List.suffix_cons _ _))]

/-- Without the sign of placeholders, or without their end, there is nothing to replace. -/
theorem expand_of_not_mem {c : Char} (hc : c = '$' ∨ c = '\x7d') {s : List Char} (h : c ∉ s) :
    expand env s = s := by
  refine expand_of_unset fun name _ hm => absurd (hm.subset ?_) h
  rcases hc with rfl | rfl <;> simp [writePlaceholder]

/-- Braces around anything but a name are no placeholder. -/
theorem expand_unnamed {t : List Char} (ht : isName t = false) (hdollar : '$' ∉ t)
    (hclose : '\x7d' ∉ t) : expand env (writePlaceholder t) = writePlaceholder t := by
  have hnone : placeholderName? (t ++ ['\x7d']) = none := by
    rw [Option.eq_none_iff_forall_ne_some]
    rintro ⟨name, rest⟩ hsome
    have hname := isName_of_placeholderName? hsome
    -- the only closing brace stands behind `t`, so the name would be all of `t`
    obtain ⟨rfl, -, -⟩ := (List.append_cons_inj_of_notMem hclose List.not_mem_nil).mp
      (eq_of_placeholderName? hsome)
    rw [hname] at ht
    cases ht
  have hrest : '$' ∉ '\x7b' :: (t ++ ['\x7d']) := by simp [hdollar]
  rw [writePlaceholder, List.cons_append, List.cons_append, expand_dollar hnone,
    expand_of_not_mem (.inl rfl) hrest]

/-! ## Expanding as a whole -/

theorem expand_around {name : String} (h : isName name.toList = true) (p s : List Char) :
    expand env (p ++ writePlaceholder name.toList ++ s)
      = expand env p ++ replacement env name ++ expand env s := by
  have hfront : writePlaceholder name.toList ++ s
      = '$' :: ('\x7b' :: name.toList ++ ['\x7d'] ++ s) := rfl
  rw [List.append_assoc, hfront, expand_append_dollar, ← hfront, expand_writePlaceholder h,
    List.append_assoc]

/-- A placeholder between texts that cannot hold another one. -/
theorem expand_between {name : String} (h : isName name.toList = true) {p s : List Char}
    (hp : '\x7d' ∉ p) (hs : '$' ∉ s) :
    expand env (p ++ writePlaceholder name.toList ++ s) = p ++ replacement env name ++ s := by
  rw [expand_around h, expand_of_not_mem (.inr rfl) hp, expand_of_not_mem (.inl rfl) hs]

/-- What expanding does in an environment: to placeholders, to all other texts, and to what only
resembles a placeholder. -/
structure ReplacesPlaceholders (env : Environment) : Prop where
  /-- A placeholder is replaced once, and what stands before and after it is expanded for itself. -/
  placeholder : ∀ (p s : List Char) (name : String), isName name.toList = true →
    expand env (p ++ writePlaceholder name.toList ++ s)
      = expand env p ++ replacement env name ++ expand env s
  /-- A text without placeholders stays. -/
  plain : ∀ s, (∀ name, isName name.toList = true → ¬ Mentions name s) → expand env s = s
  /-- A text stays if none of the variables that it names is set. -/
  unset : ∀ s, (∀ name, isName name.toList = true → Mentions name s → env name = none) →
    expand env s = s
  /-- A sign before a placeholder stays. -/
  afterSign : ∀ name : String, isName name.toList = true →
    expand env ('$' :: writePlaceholder name.toList) = '$' :: replacement env name
  /-- Of two placeholders one in the other, the inner one is replaced. -/
  nested : ∀ name : String, isName name.toList = true →
    expand env (writePlaceholder (writePlaceholder name.toList))
      = writePlaceholder (replacement env name)
  /-- Braces around anything but a name stay. -/
  unnamed : ∀ t, isName t = false → '$' ∉ t → '\x7d' ∉ t →
    expand env (writePlaceholder t) = writePlaceholder t
  /-- A text stays if no brace is closed in it. -/
  unclosed : ∀ t, '\x7d' ∉ t → expand env t = t

/-- **Every placeholder is replaced once, and nothing else is touched.** -/
theorem expand_placeholders (env : Environment) : ReplacesPlaceholders env where
  placeholder := fun p s _ h => expand_around h p s
  plain := fun _ h => expand_of_unset fun name hn hm => absurd hm (h name hn)
  unset := fun _ h => expand_of_unset h
  afterSign := fun _ h => by
    simpa using expand_between (p := ['$']) (s := []) h (by decide) (by decide)
  nested := fun _ h => by
    simpa [writePlaceholder] using
      expand_between (p := ['$', '\x7b']) (s := ['\x7d']) h (by decide) (by decide)
  unnamed := fun _ => expand_unnamed
  unclosed := fun _ h => expand_of_not_mem (.inr rfl) h

/-- A value that looks like a placeholder is not looked at again, and neither is what only resembles
one. -/
theorem expand_placeholders_value :
    let env : Environment := fun name =>
      if name = "A" then some "$\x7bB\x7d" else if name = "B" then some "b" else none
    isName "A".toList = true ∧
      expand env ("$".toList ++ writePlaceholder "A".toList ++ "$\x7bA-B\x7d".toList)
        = "$$\x7bB\x7d$\x7bA-B\x7d".toList := by
  intro env
  have h := expand_placeholders env
  refine ⟨rfl, ?_⟩
  have hnear := h.unnamed "A-B".toList rfl (by decide) (by decide)
  rw [h.placeholder _ _ "A" rfl, h.unclosed "$".toList (by decide)]
  exact congrArg ("$$\x7bB\x7d".toList ++ ·) hnear

end TaskProbe.Config
