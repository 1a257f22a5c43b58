import TaskProbe.Text.Digits

/-!
# Blanks, comments and strings of TOML

Reading off the front of a text of characters. Each reader gives back what comes after the part it
took, and a lemma beside it says that this is shorter; the readers of whole values end because of
these lemmas.
-/

namespace TaskProbe.Toml

/-! ## Blanks and comments -/

/-- A blank within a line. -/
def isSpace (c : Char) : Bool := c == ' ' || c == '\t'

/-- A character that comments and strings may hold as it is. -/
def isTextChar (c : Char) : Bool := c == '\t' || (0x20 ≤ c.toNat && c.toNat ≠ 0x7F)

/-- Without the blanks at the front. -/
def skipSpaces (s : List Char) : List Char := s.dropWhile isSpace

/-- The text after the end of a line, if it starts with one. -/
def newline? : List Char → Option (List Char)
  | '\n' :: s => some s
  | '\r' :: '\n' :: s => some s
  | _ => none

/-- The text after a comment, if it starts with one. -/
def skipComment : List Char → List Char
  | '#' :: s => s.dropWhile isTextChar
  | s => s

/-- The text after the rest of a line that holds at most a comment. -/
def lineEnd? (s : List Char) : Option (List Char) :=
  match skipComment (skipSpaces s) with
  | [] => some []
  | c :: r => newline? (c :: r)

theorem length_dropWhile_le (p : Char → Bool) (s : List Char) :
    (s.dropWhile p).length ≤ s.length :=
  (List.dropWhile_sublist p).length_le

theorem skipSpaces_length (s : List Char) : (skipSpaces s).length ≤ s.length :=
  length_dropWhile_le isSpace s

theorem newline?_length {s r : List Char} (h : newline? s = some r) : r.length < s.length := by
  unfold newline? at h
  split at h
  · cases h; exact Nat.lt_succ_self _
  · cases h; simp only [List.length_cons]; omega
  · cases h

theorem skipComment_length (s : List Char) : (skipComment s).length ≤ s.length := by
  unfold skipComment
  split
  · exact Nat.le_succ_of_le (length_dropWhile_le _ _)
  · exact Nat.le_refl _

theorem lineEnd?_length {s r : List Char} (h : lineEnd? s = some r) : r.length ≤ s.length := by
  have hs := Nat.le_trans (skipComment_length (skipSpaces s)) (skipSpaces_length s)
  unfold lineEnd? at h
  split at h
  · cases h; exact Nat.zero_le _
  · next hc =>
    rw [hc] at hs
    exact Nat.le_of_lt (Nat.lt_of_lt_of_le (newline?_length h) hs)

/-- Without blanks, comments and ends of lines at the front. -/
def skipLines (s : List Char) : List Char :=
  match _h : newline? (skipComment (skipSpaces s)) with
  | none => skipComment (skipSpaces s)
  | some t => skipLines t
termination_by s.length
decreasing_by
  exact Nat.lt_of_lt_of_le (newline?_length _h)
    (Nat.le_trans (skipComment_length _) (skipSpaces_length s))

theorem skipLines_length (s : List Char) : (skipLines s).length ≤ s.length := by
  have hs (t : List Char) : (skipComment (skipSpaces t)).length ≤ t.length :=
    Nat.le_trans (skipComment_length _) (skipSpaces_length t)
  fun_induction skipLines s with
  | case1 s _ => exact hs s
  | case2 s t h ih =>
    exact Nat.le_trans ih (Nat.le_of_lt (Nat.lt_of_lt_of_le (newline?_length h) (hs s)))

/-! ## Strings -/

/-- The character with the code given by hexadecimal digits. -/
def charOfDigits? (digits : List Char) : Option Char :=
  (Text.readDigits? 16 digits).bind fun n =>
    if h : n.isValidChar then some (Char.ofNatAux n h) else none

/-- What a backslash and the characters after it stand for. -/
def escape? : List Char → Option (Char × List Char)
  | 'b' :: s => some ('\x08', s)
  | 't' :: s => some ('\t', s)
  | 'n' :: s => some ('\n', s)
  | 'f' :: s => some ('\x0c', s)
  | 'r' :: s => some ('\r', s)
  | 'e' :: s => some ('\x1b', s)
  | '"' :: s => some ('"', s)
  | '\\' :: s => some ('\\', s)
  | 'x' :: a :: b :: s => (charOfDigits? [a, b]).map (·, s)
  | 'u' :: a :: b :: c :: d :: s => (charOfDigits? [a, b, c, d]).map (·, s)
  | 'U' :: a :: b :: c :: d :: e :: f :: g :: h :: s =>
    (charOfDigits? [a, b, c, d, e, f, g, h]).map (·, s)
  | _ => none

theorem escape?_length {s : List Char} {x : Char × List Char} (h : escape? s = some x) :
    x.2.length < s.length := by
  unfold escape? at h
  split at h <;>
    first
    | (cases h; exact Nat.lt_succ_self _)
    | (obtain ⟨c, -, rfl⟩ := Option.map_eq_some_iff.mp h; simp only [List.length_cons]; omega)
    | cases h

/-- The rest of a string in double quotes, after the opening one. -/
def basicBody (s : List Char) : Option (List Char × List Char) :=
  match s with
  | [] => none
  | c :: r =>
    if c = '"' then some ([], r)
    else if c = '\\' then
      match _h : escape? r with
      | none => none
      | some (x, t) => (basicBody t).map fun (cs, rest) => (x :: cs, rest)
    else if isTextChar c then (basicBody r).map fun (cs, rest) => (c :: cs, rest)
    else none
termination_by s.length
decreasing_by
  · exact Nat.lt_succ_of_lt (escape?_length _h)
  · exact Nat.lt_succ_self _

/-- The rest of a string in apostrophes, after the opening one. -/
def literalBody (s : List Char) : Option (List Char × List Char) :=
  match s.dropWhile fun c => isTextChar c && c ≠ '\'' with
  | '\'' :: rest => some (s.takeWhile fun c => isTextChar c && c ≠ '\'', rest)
  | _ => none

/-- Up to two more quotes after the three that close a string belong to it. -/
def closing (quote : Char) : List Char → List Char × List Char
  | [] => ([], [])
  | [a] => if a = quote then ([quote], []) else ([], [a])
  | a :: b :: s =>
    if a = quote then if b = quote then ([quote, quote], s) else ([quote], b :: s)
    else ([], a :: b :: s)

theorem closing_length (quote : Char) (s : List Char) :
    (closing quote s).2.length ≤ s.length := by
  unfold closing
  split
  · exact Nat.le_refl _
  · split <;> simp
  · split
    · split <;> simp only [List.length_cons] <;> omega
    · exact Nat.le_refl _

/-- The text after blanks with an end of line among them, up to the next character that is none. -/
def continued? (s : List Char) : Option (List Char) :=
  (newline? (skipSpaces s)).map skipBreaks
where
  /-- Without blanks and ends of lines at the front. -/
  skipBreaks : List Char → List Char
    | '\r' :: '\n' :: s => skipBreaks s
    | c :: s => if isSpace c || c == '\n' then skipBreaks s else c :: s
    | [] => []

theorem skipBreaks_length (s : List Char) : (continued?.skipBreaks s).length ≤ s.length := by
  fun_induction continued?.skipBreaks s with
  | case1 s ih => simp only [List.length_cons]; omega
  | case2 c s _ _ ih => exact Nat.le_succ_of_le ih
  | case3 => exact Nat.le_refl _
  | case4 => exact Nat.le_refl _

theorem continued?_length {s r : List Char} (h : continued? s = some r) :
    r.length < s.length := by
  obtain ⟨t, ht, rfl⟩ := Option.map_eq_some_iff.mp h
  exact Nat.lt_of_le_of_lt (skipBreaks_length t)
    (Nat.lt_of_lt_of_le (newline?_length ht) (skipSpaces_length s))

/-- The rest of a string in three double quotes, after the opening ones and the end of line there. -/
def longBasicBody (s : List Char) : Option (List Char × List Char) :=
  match s with
  | [] => none
  | '"' :: '"' :: '"' :: r => some (closing '"' r)
  | '\r' :: '\n' :: r => (longBasicBody r).map fun (cs, rest) => ('\r' :: '\n' :: cs, rest)
  | c :: r =>
    if c = '\\' then
      match _h : continued? r with
      | some t => longBasicBody t
      | none =>
        match _h' : escape? r with
        | none => none
        | some (x, t) => (longBasicBody t).map fun (cs, rest) => (x :: cs, rest)
    else if isTextChar c || c == '\n' then
      (longBasicBody r).map fun (cs, rest) => (c :: cs, rest)
    else none
termination_by s.length
decreasing_by
  · simp only [List.length_cons]; omega
  · exact Nat.lt_succ_of_lt (continued?_length _h)
  · exact Nat.lt_succ_of_lt (escape?_length _h')
  · exact Nat.lt_succ_self _

/-- The rest of a string in three apostrophes, after the opening ones and the end of line there. -/
def longLiteralBody : List Char → Option (List Char × List Char)
  | [] => none
  | '\'' :: '\'' :: '\'' :: r => some (closing '\'' r)
  | '\r' :: '\n' :: r => (longLiteralBody r).map fun (cs, rest) => ('\r' :: '\n' :: cs, rest)
  | c :: r =>
    if isTextChar c || c == '\n' then (longLiteralBody r).map fun (cs, rest) => (c :: cs, rest)
    else none

/-- Without one end of line at the front. -/
def dropNewline (s : List Char) : List Char := (newline? s).getD s

/-- A string of any of the four kinds; only those on one line can be keys. -/
def string? (long : Bool) : List Char → Option (List Char × List Char)
  | '"' :: '"' :: '"' :: s => if long then longBasicBody (dropNewline s) else none
  | '\'' :: '\'' :: '\'' :: s => if long then longLiteralBody (dropNewline s) else none
  | '"' :: s => basicBody s
  | '\'' :: s => literalBody s
  | _ => none

theorem basicBody_length {s : List Char} : ∀ {x : List Char × List Char},
    basicBody s = some x → x.2.length < s.length := by
  fun_induction basicBody s with
  | case1 => intro x h; cases h
  | case2 => intro x h; cases h; exact Nat.lt_succ_self _
  | case3 => intro x h; cases h
  | case4 r c t ht _ ih =>
    intro x h
    obtain ⟨y, hy, rfl⟩ := Option.map_eq_some_iff.mp h
    have := ih hy
    exact Nat.lt_succ_of_lt (Nat.lt_trans this (escape?_length ht))
  | case5 c r _ _ _ ih =>
    intro x h
    obtain ⟨y, hy, rfl⟩ := Option.map_eq_some_iff.mp h
    have := ih hy
    exact Nat.lt_succ_of_lt this
  | case6 => intro x h; cases h

theorem literalBody_length {s : List Char} {x : List Char × List Char}
    (h : literalBody s = some x) : x.2.length < s.length := by
  have hs := length_dropWhile_le (fun c => isTextChar c && c ≠ '\'') s
  unfold literalBody at h
  split at h
  · next hr => cases h; rw [hr] at hs; exact hs
  · cases h

theorem longBasicBody_length {s : List Char} : ∀ {x : List Char × List Char},
    longBasicBody s = some x → x.2.length < s.length := by
  fun_induction longBasicBody s with
  | case1 => intro x h; cases h
  | case2 r =>
    intro x h
    cases h
    have := closing_length '"' r
    simp only [List.length_cons]
    omega
  | case3 r ih =>
    intro x h
    obtain ⟨y, hy, rfl⟩ := Option.map_eq_some_iff.mp h
    have := ih hy
    simp only [List.length_cons]
    omega
  | case4 r t ht _ _ ih =>
    intro x h
    exact Nat.lt_succ_of_lt (Nat.lt_trans (ih h) (continued?_length ht))
  | case5 => intro x h; cases h
  | case6 r _ c t ht _ _ ih =>
    intro x h
    obtain ⟨y, hy, rfl⟩ := Option.map_eq_some_iff.mp h
    have := ih hy
    exact Nat.lt_succ_of_lt (Nat.lt_trans this (escape?_length ht))
  | case7 c r _ _ _ _ ih =>
    intro x h
    obtain ⟨y, hy, rfl⟩ := Option.map_eq_some_iff.mp h
    have := ih hy
    exact Nat.lt_succ_of_lt this
  | case8 => intro x h; cases h

theorem longLiteralBody_length {s : List Char} : ∀ {x : List Char × List Char},
    longLiteralBody s = some x → x.2.length < s.length := by
  fun_induction longLiteralBody s with
  | case1 => intro x h; cases h
  | case2 r =>
    intro x h
    cases h
    have := closing_length '\'' r
    simp only [List.length_cons]
    omega
  | case3 r ih =>
    intro x h
    obtain ⟨y, hy, rfl⟩ := Option.map_eq_some_iff.mp h
    have := ih hy
    simp only [List.length_cons]
    omega
  | case4 c r _ _ _ ih =>
    intro x h
    obtain ⟨y, hy, rfl⟩ := Option.map_eq_some_iff.mp h
    have := ih hy
    exact Nat.lt_succ_of_lt this
  | case5 => intro x h; cases h

theorem dropNewline_length (s : List Char) : (dropNewline s).length ≤ s.length := by
  unfold dropNewline
  cases h : newline? s with
  | none => exact Nat.le_refl _
  | some r => exact Nat.le_of_lt (newline?_length h)

theorem string?_length {long : Bool} {s : List Char} {x : List Char × List Char}
    (h : string? long s = some x) : x.2.length < s.length := by
  unfold string? at h
  split at h
  · next r =>
    split at h
    · have := longBasicBody_length h
      have := dropNewline_length r
      simp only [List.length_cons]
      omega
    · cases h
  · next r =>
    split at h
    · have := longLiteralBody_length h
      have := dropNewline_length r
      simp only [List.length_cons]
      omega
    · cases h
  · exact Nat.lt_succ_of_lt (basicBody_length h)
  · exact Nat.lt_succ_of_lt (literalBody_length h)
  · cases h

end TaskProbe.Toml
