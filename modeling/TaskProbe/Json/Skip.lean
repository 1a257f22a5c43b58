import TaskProbe.Json.Parser

/-!
# Skipping JSON values

Taking a value off the front of the unread bytes without building it. Only its form is looked at:
strings may hold bytes that are no UTF-8, numbers may be as large as they like, and there is no limit
on nesting.
-/

namespace TaskProbe.Json.Skip

/-! ## Numbers and strings -/

/-- The exponent after its mark. -/
def exponent (s : List UInt8) : Except Failure (List UInt8) :=
  let s :=
    match s with
    | c :: r => if c = Byte.plus || c = Byte.minus then r else s
    | [] => s
  match s with
  | [] => .error (.before .invalidNumber [])
  | d :: r =>
    if Byte.isDigit d then .ok (r.dropWhile Byte.isDigit) else .error (.before .invalidNumber r)

/-- An exponent, if one follows. -/
def optionalExponent (s : List UInt8) : Except Failure (List UInt8) :=
  match s with
  | c :: r => if Byte.isExponentMark c then exponent r else .ok s
  | [] => .ok []

/-- The digits after a point and what may follow them. -/
def fraction (s : List UInt8) : Except Failure (List UInt8) :=
  let rest := s.dropWhile Byte.isDigit
  if (s.takeWhile Byte.isDigit).isEmpty then .error (.atHead .invalidNumber rest)
  else optionalExponent rest

/-- What may follow the digits before the point. -/
def afterWhole (s : List UInt8) : Except Failure (List UInt8) :=
  match s with
  | c :: r => if c = Byte.point then fraction r else optionalExponent s
  | [] => .ok []

/-- A number without its sign. -/
def magnitude (s : List UInt8) : Except Failure (List UInt8) :=
  match s with
  | [] => .error (.before .invalidNumber [])
  | c :: r =>
    if c = 0x30 then
      match r with
      | d :: _ => if Byte.isDigit d then .error (.atHead .invalidNumber r) else afterWhole r
      | [] => .ok []
    else if Byte.isDigit c then afterWhole (r.dropWhile Byte.isDigit)
    else .error (.before .invalidNumber r)

/-- What follows a backslash. -/
def escape (s : List UInt8) : Except Failure (List UInt8) :=
  match s with
  | [] => .error (.before .eofString [])
  | c :: r =>
    if (shortEscape? c).isSome then .ok r
    else if c = 0x75 then (hexEscape r).map (·.2)
    else .error (.before .invalidEscape r)

theorem exponent_length {s r : List UInt8} (h : exponent s = .ok r) : r.length ≤ s.length := by
  have drop (t : List UInt8) : (t.dropWhile Byte.isDigit).length ≤ t.length :=
    (List.dropWhile_sublist _).length_le
  unfold exponent at h
  dsimp only at h
  split at h
  · cases h
  · next d t heq =>
    split at h
    · cases h
      have := drop t
      split at heq
      · split at heq
        · rw [heq]; simp only [List.length_cons]; omega
        · rw [heq]; simp only [List.length_cons]; omega
      · cases heq
    · cases h

theorem optionalExponent_length {s r : List UInt8} (h : optionalExponent s = .ok r) :
    r.length ≤ s.length := by
  unfold optionalExponent at h
  split at h
  · split at h
    · exact Nat.le_succ_of_le (exponent_length h)
    · cases h; exact Nat.le_refl _
  · cases h; exact Nat.le_refl _

theorem fraction_length {s r : List UInt8} (h : fraction s = .ok r) : r.length ≤ s.length := by
  unfold fraction at h
  dsimp only at h
  split at h
  · cases h
  · exact Nat.le_trans (optionalExponent_length h) (List.dropWhile_sublist _).length_le

theorem afterWhole_length {s r : List UInt8} (h : afterWhole s = .ok r) :
    r.length ≤ s.length := by
  unfold afterWhole at h
  split at h
  · split at h
    · exact Nat.le_succ_of_le (fraction_length h)
    · exact optionalExponent_length h
  · cases h; exact Nat.le_refl _

theorem magnitude_length {s r : List UInt8} (h : magnitude s = .ok r) : r.length < s.length := by
  unfold magnitude at h
  split at h
  · cases h
  · split at h
    · split at h
      · split at h
        · cases h
        · exact Nat.lt_succ_of_le (afterWhole_length h)
      · cases h; exact Nat.lt_succ_self _
    · split at h
      · exact Nat.lt_succ_of_le
          (Nat.le_trans (afterWhole_length h) (List.dropWhile_sublist _).length_le)
      · cases h

theorem escape_length {s r : List UInt8} (h : escape s = .ok r) : r.length < s.length := by
  unfold escape at h
  split at h
  · cases h
  · split at h
    · cases h; exact Nat.lt_succ_self _
    · split at h
      · next t _ _ =>
        cases hx : hexEscape t with
        | error e => rw [hx] at h; cases h
        | ok x =>
          rw [hx] at h
          cases h
          exact Nat.lt_succ_of_lt (hexEscape_length hx)
      · cases h

/-- A string, after its opening quote. -/
def string (s : List UInt8) : Except Failure (List UInt8) :=
  match s with
  | [] => .error (.before .eofString [])
  | c :: r =>
    if c = Byte.quote then .ok r
    else if c = Byte.backslash then
      match _h : escape r with
      | .error e => .error e
      | .ok t => string t
    else if c < 0x20 then .error (.before .controlCharacter (c :: r))
    else string r
termination_by s.length
decreasing_by
  · exact Nat.lt_succ_of_lt (escape_length _h)
  · exact Nat.lt_succ_self _

theorem string_length {s r : List UInt8} (h : string s = .ok r) : r.length < s.length := by
  fun_induction string s with
  | case1 => cases h
  | case2 => cases h; exact Nat.lt_succ_self _
  | case3 => cases h
  | case4 t u hu _ ih => exact Nat.lt_succ_of_lt (Nat.lt_trans (ih h) (escape_length hu))
  | case5 => cases h
  | case6 c t _ _ _ ih => exact Nat.lt_succ_of_lt (ih h)

/-! ## Values -/

mutual

/-- A value after blanks. -/
def value (s : List UInt8) : Except Failure (Shorter s) :=
  match h : skipBlanks s with
  | [] => .error (.atHead .eofValue [])
  | c :: r =>
    have hr := length_of_skipBlanks h
    let keep (t : Except Failure (List UInt8))
        (ht : ∀ {x}, t = .ok x → x.length ≤ r.length) : Except Failure (Shorter s) :=
      match t, @ht with
      | .error e, _ => .error e
      | .ok x, ht => .ok ⟨x, Nat.lt_of_le_of_lt (ht rfl) hr⟩
    if c = 0x6E then keep (word nullTail r) word_length
    else if c = 0x74 then keep (word trueTail r) word_length
    else if c = 0x66 then keep (word falseTail r) word_length
    else if c = Byte.minus then keep (magnitude r) fun h => Nat.le_of_lt (magnitude_length h)
    else if Byte.isDigit c then
      keep (magnitude (c :: r)) fun h => Nat.le_of_lt_succ (magnitude_length h)
    else if c = Byte.quote then keep (string r) fun h => Nat.le_of_lt (string_length h)
    else if c = Byte.openBracket then
      match h' : skipBlanks r with
      | [] => .error (.atHead .eofList [])
      | d :: t =>
        if d = Byte.closeBracket then .ok ⟨t, Nat.lt_trans (length_of_skipBlanks h') hr⟩
        else (items r).map (·.within (Nat.le_of_lt hr))
    else if c = Byte.openBrace then
      match h' : skipBlanks r with
      | [] => .error (.atHead .eofObject [])
      | d :: t =>
        if d = Byte.closeBrace then .ok ⟨t, Nat.lt_trans (length_of_skipBlanks h') hr⟩
        else (fields r).map (·.within (Nat.le_of_lt hr))
    else .error (.atHead .expectedValue (c :: r))
termination_by (s.length, 0)

/-- The items of an array from one of them on, and its closing bracket. -/
def items (s : List UInt8) : Except Failure (Shorter s) :=
  match value s with
  | .error e => .error e
  | .ok ⟨r, hr⟩ =>
    match h : skipBlanks r with
    | [] => .error (.atHead .eofList [])
    | c :: t =>
      have ht := Nat.lt_trans (length_of_skipBlanks h) hr
      if c = Byte.closeBracket then .ok ⟨t, ht⟩
      else if c = Byte.comma then (items t).map (·.within (Nat.le_of_lt ht))
      else .error (.atHead .expectedListCommaOrEnd (c :: t))
termination_by (s.length, 1)

/-- The fields of an object from one of them on, and its closing brace. -/
def fields (s : List UInt8) : Except Failure (Shorter s) :=
  match h : skipBlanks s with
  | [] => .error (.atHead .eofObject [])
  | c :: r =>
    if c ≠ Byte.quote then .error (.atHead .keyMustBeString (c :: r))
    else
      match hk : string r with
      | .error e => .error e
      | .ok t =>
        match h' : skipBlanks t with
        | [] => .error (.atHead .eofObject [])
        | d :: u =>
          have hu : u.length < s.length :=
            Nat.lt_trans (Nat.lt_trans (length_of_skipBlanks h') (string_length hk))
              (length_of_skipBlanks h)
          if d ≠ Byte.colon then .error (.atHead .expectedColon (d :: u))
          else
            match value u with
            | .error e => .error e
            | .ok ⟨v, hv⟩ =>
              match h'' : skipBlanks v with
              | [] => .error (.atHead .eofObject [])
              | e :: w =>
                have hw := Nat.lt_trans (Nat.lt_trans (length_of_skipBlanks h'') hv) hu
                if e = Byte.closeBrace then .ok ⟨w, hw⟩
                else if e = Byte.comma then (fields w).map (·.within (Nat.le_of_lt hw))
                else .error (.atHead .expectedObjectCommaOrEnd (e :: w))
termination_by (s.length, 1)

end

end TaskProbe.Json.Skip
