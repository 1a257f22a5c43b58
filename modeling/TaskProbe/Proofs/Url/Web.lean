import TaskProbe.Proofs.Url.Percent
import TaskProbe.Rule

/-!
# URLs of web servers

Whatever way a URL of a web server is written, its path is a list of segments with at least one of
them, and no segment holds a slash (`segmented_of_parse`). So the written form of such a path can be
taken apart at its slashes.
-/

namespace TaskProbe.Url

open Text

/-- No segment holds a slash. -/
def NoSlash (list : List (List Char)) : Prop := ∀ segment ∈ list, '/' ∉ segment

/-- The segments of a path that starts with a slash. -/
structure Segmented (list : List (List Char)) : Prop where
  ne_nil : list ≠ []
  noSlash : NoSlash list

/-! ## Taking a path apart -/

theorem splitOn_ne_nil (sep : Char → Bool) (s : List Char) : splitOn sep s ≠ [] := by
  cases s with
  | nil => simp [splitOn]
  | cons c s =>
    rw [splitOn]
    repeat' split
    all_goals simp

theorem not_sep_of_mem_splitOn {sep : Char → Bool} {s part : List Char}
    (h : part ∈ splitOn sep s) : ∀ c ∈ part, sep c = false := by
  induction s generalizing part with
  | nil =>
    rw [splitOn, List.mem_singleton] at h
    rw [h]
    exact fun c hc => absurd hc List.not_mem_nil
  | cons d s ih =>
    rw [splitOn] at h
    split at h
    · rcases List.mem_cons.mp h with rfl | h
      · exact fun c hc => absurd hc List.not_mem_nil
      · exact ih h
    · next hd =>
      split at h
      · next first more hsplit =>
        rw [hsplit] at ih
        rcases List.mem_cons.mp h with rfl | h
        · intro c hc
          rcases List.mem_cons.mp hc with rfl | hc
          · exact Bool.eq_false_iff.mpr hd
          · exact ih List.mem_cons_self c hc
        · exact ih (List.mem_cons_of_mem _ h)
      · next hsplit => exact absurd hsplit (splitOn_ne_nil sep s)

theorem NoSlash.dropLast {list : List (List Char)} (h : NoSlash list) : NoSlash list.dropLast :=
  fun segment hs => h segment (List.dropLast_subset list hs)

theorem NoSlash.concat {list : List (List Char)} (h : NoSlash list) {segment : List Char}
    (hs : '/' ∉ segment) : NoSlash (list ++ [segment]) := by
  intro other hother
  rcases List.mem_append.mp hother with hother | hother
  · exact h other hother
  · rw [List.mem_singleton.mp hother]
    exact hs

theorem segmented_concat {list : List (List Char)} (h : NoSlash list) {segment : List Char}
    (hs : '/' ∉ segment) : Segmented (list ++ [segment]) :=
  ⟨by simp, h.concat hs⟩

/-- Wherever dot segments lead, at least one segment is left. -/
theorem segmented_follow {path segments : List (List Char)} (hne : segments ≠ [])
    (hpath : NoSlash path) (hsegments : NoSlash segments) : Segmented (follow path segments) := by
  have hempty : '/' ∉ ([] : List Char) := List.not_mem_nil
  fun_induction follow path segments with
  | case1 => exact absurd rfl hne
  | case2 => exact segmented_concat hpath.dropLast hempty
  | case3 => exact segmented_concat hpath hempty
  | case4 path last => exact segmented_concat hpath (hsegments last List.mem_cons_self)
  | case5 path first more hmore _ ih =>
    exact ih hmore hpath.dropLast fun s hs => hsegments s (List.mem_cons_of_mem _ hs)
  | case6 path first more hmore _ _ ih =>
    exact ih hmore hpath fun s hs => hsegments s (List.mem_cons_of_mem _ hs)
  | case7 path first more hmore _ _ ih =>
    exact ih hmore (hpath.concat (hsegments first List.mem_cons_self))
      fun s hs => hsegments s (List.mem_cons_of_mem _ hs)

theorem segmented_pathFrom (special : Bool) (s : List Char) :
    Segmented (pathFrom special [] s).1 := by
  unfold pathFrom
  refine segmented_follow ?_ (fun _ h => absurd h List.not_mem_nil) ?_
  · simp [splitOn_ne_nil]
  · intro segment h
    obtain ⟨part, hpart, rfl⟩ := List.mem_map.mp h
    intro hslash
    have hmem := (mem_of_mem_percentEncode (by decide) hslash).1
    have hsep := not_sep_of_mem_splitOn hpart '/' hmem
    simp [isSlash] at hsep

theorem segmented_pathStart (s : List Char) : Segmented (pathStart true s).1 := by
  unfold pathStart
  split
  · split
    · exact segmented_pathFrom true _
    · rw [if_neg (by simp)]
      exact segmented_pathFrom true _
  · refine ⟨List.cons_ne_nil _ _, fun segment h => ?_⟩
    rw [List.mem_singleton.mp h]
    exact List.not_mem_nil

/-! ## Whole URLs -/

theorem withTail_scheme (u : Url) (s : List Char) : (withTail u s).scheme = u.scheme := by
  unfold withTail
  split <;> rfl

theorem withTail_path (u : Url) (s : List Char) : (withTail u s).path = u.path := by
  unfold withTail
  split <;> rfl

theorem isWeb_iff {u : Url} : u.isWeb = true ↔ u.scheme = http ∨ u.scheme = https := by
  simp [isWeb]

variable [Idna]

theorem of_afterSlashes {scheme s : List Char} {u : Url} (h : afterSlashes scheme s = .ok u) :
    u.scheme = scheme ∧ (isSpecialScheme scheme = true →
      ∃ list, u.path = .segments list ∧ Segmented list) := by
  unfold afterSlashes at h
  cases huser : userInfo (isSpecialScheme scheme) s with
  | error fault => simp only [huser] at h; cases h
  | ok x =>
    obtain ⟨username, password, rest⟩ := x
    simp only [huser] at h
    cases hhost : hostAndPort scheme rest with
    | error fault => simp only [bind, Except.bind, hhost] at h; cases h
    | ok y =>
      obtain ⟨host, port, rest⟩ := y
      simp only [bind, Except.bind, hhost] at h
      cases h
      refine ⟨withTail_scheme _ _, fun hspecial => ⟨_, withTail_path _ _, ?_⟩⟩
      rw [hspecial]
      exact segmented_pathStart rest

theorem scheme_of_fileUrl {s : List Char} {u : Url} (h : fileUrl s = .ok u) : u.scheme = file := by
  have hscheme (path : Path) (host : Option Host) (tail : List Char) :
      (withTail { scheme := file, host, path } tail).scheme = file := withTail_scheme _ _
  unfold fileUrl at h
  rcases s with _ | ⟨a, _ | ⟨b, rest⟩⟩
  · cases h
    exact hscheme _ none _
  · cases h
    exact hscheme _ none _
  · dsimp only at h
    by_cases hslashes : (isSlash true a && isSlash true b) = true
    · rw [if_pos hslashes] at h
      split at h
      · cases h
        exact hscheme _ none _
      · cases hhost : parseHost (rest.takeWhile (!endsAuthority true ·)) with
        | error fault => rw [hhost] at h; cases h
        | ok host =>
          rw [hhost] at h
          cases h
          exact hscheme _ _ _
    · rw [if_neg hslashes] at h
      cases h
      exact hscheme _ none _

theorem scheme_of_plainUrl {scheme s : List Char} {u : Url} (h : plainUrl scheme s = .ok u) :
    u.scheme = scheme := by
  unfold plainUrl at h
  split at h
  · exact (of_afterSlashes h).1
  · cases h
    exact withTail_scheme _ _
  · cases h
    exact withTail_scheme _ _

/-- **The path of a web server's URL is made of segments.** -/
theorem segmented_of_parse {text : List Char} {u : Url} (h : parse text = .ok u)
    (hweb : u.isWeb = true) : ∃ list, u.path = .segments list ∧ Segmented list := by
  unfold parse parseWith at h
  dsimp only at h
  split at h
  · next scheme rest hscheme =>
    by_cases hfile : scheme = file
    · rw [if_pos hfile] at h
      rw [isWeb, scheme_of_fileUrl h] at hweb
      exact absurd hweb (by decide)
    · rw [if_neg hfile] at h
      by_cases hspecial : isSpecialScheme scheme = true
      · rw [if_pos hspecial] at h
        exact (of_afterSlashes h).2 hspecial
      · rw [if_neg hspecial] at h
        -- the schemes of web servers are special
        rw [isWeb, scheme_of_plainUrl h, Bool.or_eq_true, beq_iff_eq, beq_iff_eq] at hweb
        rcases hweb with rfl | rfl
        · exact absurd (by decide) hspecial
        · exact absurd (by decide) hspecial
  · cases h

/-- The rule for URLs accepts what is read as the URL of a web server. -/
theorem rule_eq_ok_iff {s : List Char} {u : Url} :
    Rule.url s = .ok u ↔ s ≠ [] ∧ parse s = .ok u ∧ u.isWeb = true := by
  unfold Rule.url
  constructor
  · intro h
    split at h
    · cases h
    next hne =>
    split at h
    · cases h
    next hparse =>
    split at h
    · next hweb =>
      cases h
      exact ⟨by simpa using hne, hparse, hweb⟩
    · cases h
  · rintro ⟨hne, hparse, hweb⟩
    simp [hne, hparse, hweb]

end TaskProbe.Url
