import TaskProbe.Decimal.Bounds
import TaskProbe.Json.Basic
import TaskProbe.Json.Error
import TaskProbe.Text.Utf8

/-!
# Tokens of a JSON text

Reading blanks, words, numbers and strings off the front of the unread bytes. Each reader gives back
the bytes after what it took, and a lemma beside it says that they are no more than before
(`word_length`, `number_length`, `stringBody_length`); the readers of whole values end because of
these.

## Numbers

The digits are taken as one integer of 64 bits for as long as it holds them. An integer that fits
stays an integer. Every other number is that integer as a binary64 number, scaled by one power of ten
(`scaled?`); digits that do not fit are counted before the point and dropped after it.
-/

namespace TaskProbe.Json

/-! ## Bytes with a meaning -/

namespace Byte

abbrev quote : UInt8 := 0x22
abbrev backslash : UInt8 := 0x5C
abbrev comma : UInt8 := 0x2C
abbrev colon : UInt8 := 0x3A
abbrev openBracket : UInt8 := 0x5B
abbrev closeBracket : UInt8 := 0x5D
abbrev openBrace : UInt8 := 0x7B
abbrev closeBrace : UInt8 := 0x7D
abbrev minus : UInt8 := 0x2D
abbrev plus : UInt8 := 0x2B
abbrev point : UInt8 := 0x2E

/-- Space, line feed, tab or carriage return. -/
def isBlank (b : UInt8) : Bool := b == 0x20 || b == 0x0A || b == 0x09 || b == 0x0D

/-- A decimal digit. -/
def isDigit (b : UInt8) : Bool := 0x30 ≤ b && b ≤ 0x39

/-- The value of a decimal digit. -/
def digitValue (b : UInt8) : Nat := b.toNat - 0x30

/-- The mark before an exponent. -/
def isExponentMark (b : UInt8) : Bool := b == 0x65 || b == 0x45

/-- The value of a hexadecimal digit. -/
def hexValue? (b : UInt8) : Option Nat := Text.hexValue? (Char.ofNat b.toNat)

end Byte

/-- The rest of a text after a reader took at least one byte off `s`. -/
abbrev Shorter (s : List UInt8) := { r : List UInt8 // r.length < s.length }

/-- The unread bytes from the first one that is not blank on. -/
def skipBlanks (s : List UInt8) : List UInt8 := s.dropWhile Byte.isBlank

theorem dropWhile_length_le {α : Type} (p : α → Bool) (s : List α) :
    (s.dropWhile p).length ≤ s.length := by
  induction s with
  | nil => simp
  | cons c r ih =>
    rw [List.dropWhile_cons]
    split
    · simp only [List.length_cons]; omega
    · exact Nat.le_refl _

theorem skipBlanks_length (s : List UInt8) : (skipBlanks s).length ≤ s.length :=
  dropWhile_length_le _ s

/-! ## Words -/

/-- Takes the bytes of a word, the first of which has been seen already. -/
def word : List UInt8 → List UInt8 → Except Failure (List UInt8)
  | [], s => .ok s
  | _ :: _, [] => .error (.before .eofValue [])
  | e :: w, c :: s => if c = e then word w s else .error (.before .expectedWord s)

theorem word_length {w s r : List UInt8} (h : word w s = .ok r) : r.length ≤ s.length := by
  fun_induction word w s with
  | case1 s => cases h; exact Nat.le_refl _
  | case2 => cases h
  | case3 w c s ih => have := ih h; simp only [List.length_cons]; omega
  | case4 => cases h

/-- The bytes of `null` after the first. -/
def nullTail : List UInt8 := [0x75, 0x6C, 0x6C]

/-- The bytes of `true` after the first. -/
def trueTail : List UInt8 := [0x72, 0x75, 0x65]

/-- The bytes of `false` after the first. -/
def falseTail : List UInt8 := [0x61, 0x6C, 0x73, 0x65]

/-! ## Numbers -/

/-- Takes digits into an integer of 64 bits; gives it with the digits that it does not hold. -/
def significand (value : Nat) : List UInt8 → Nat × List UInt8
  | [] => (value, [])
  | d :: ds =>
    let next := value * 10 + Byte.digitValue d
    if maxUInt64 < next then (value, d :: ds) else significand next ds

/-- A power of ten as a binary64 number. -/
def powerOfTen (k : Nat) : Binary64 := (Binary64.ofRatio false (Nat.pow 10 k) 1).getD (.zero false)

/-- The greatest power of ten that is a binary64 number. -/
def greatestPower : Nat := 308

/-- Divides by `10 ^ k`, by one binary64 power after the other. -/
def dividePower (x : Binary64) (k : Nat) : Option Binary64 :=
  if k ≤ greatestPower then x.div (powerOfTen k)
  else if x.isZero then some x
  else (x.div (powerOfTen greatestPower)).bind fun y => dividePower y (k - greatestPower)
termination_by k
decreasing_by simp only [greatestPower] at *; omega

/-- `value · 10 ^ exponent` as a binary64 number, or none where it is out of range. -/
def scaled? (value : Nat) (exponent : Int) : Option Binary64 :=
  (Binary64.ofRatio false value 1).bind fun x =>
    match exponent with
    | .ofNat k =>
      if k ≤ greatestPower then x.mul (powerOfTen k) else if x.isZero then some x else none
    | .negSucc k => dividePower x (k + 1)

/-- A number that is no integer, before `rest`. -/
def floatNumber (negative : Bool) (value : Nat) (exponent : Int) (rest : List UInt8) :
    Except Failure (Number × List UInt8) :=
  match scaled? value exponent with
  | some x => .ok (.float { x with negative := negative }, rest)
  | none => .error (.before .numberOutOfRange rest)

/-- The greatest exponent that is read as it is, also the greatest signed integer of 32 bits. -/
def greatestExponent : Nat := 0x7FFFFFFF

/-- Takes the digits of an exponent; gives the exponent, or none with the bytes after the digit that
made it too large. -/
def exponentDigits (value : Nat) : List UInt8 → Option Nat × List UInt8
  | [] => (some value, [])
  | d :: s =>
    if Byte.isDigit d then
      let next := value * 10 + Byte.digitValue d
      if greatestExponent < next then (none, s) else exponentDigits next s
    else (some value, d :: s)

theorem exponentDigits_length (value : Nat) (s : List UInt8) :
    (exponentDigits value s).2.length ≤ s.length := by
  fun_induction exponentDigits value s <;> simp_all only [List.length_cons] <;> omega

/-- The exponent after its mark, for a number with the given digits and the power of ten of the last
one of them. -/
def exponentPart (negative : Bool) (value : Nat) (power : Int) (s : List UInt8) :
    Except Failure (Number × List UInt8) :=
  let (down, s) :=
    match s with
    | c :: r => if c = Byte.plus then (false, r) else if c = Byte.minus then (true, r) else (false, s)
    | [] => (false, s)
  match s with
  | [] => .error (.before .eofValue [])
  | d :: r =>
    if Byte.isDigit d then
      match exponentDigits (Byte.digitValue d) r with
      | (some e, rest) => floatNumber negative value (if down then power - e else power + e) rest
      | (none, rest) =>
        if value ≠ 0 && !down then .error (.before .numberOutOfRange rest)
        else .ok (.float (.zero negative), rest.dropWhile Byte.isDigit)
    else .error (.before .invalidNumber r)

/-- What may follow the digits of a number that is no integer: an exponent or nothing. -/
def afterDigits (negative : Bool) (value : Nat) (power : Int) (s : List UInt8) :
    Except Failure (Number × List UInt8) :=
  match s with
  | c :: r =>
    if Byte.isExponentMark c then exponentPart negative value power r
    else floatNumber negative value power s
  | [] => floatNumber negative value power s

/-- The digits after the point. -/
def fractionPart (negative : Bool) (value : Nat) (power : Int) (s : List UInt8) :
    Except Failure (Number × List UInt8) :=
  let ds := s.takeWhile Byte.isDigit
  let rest := s.dropWhile Byte.isDigit
  if ds.isEmpty then
    .error (.atHead (if rest.isEmpty then .eofValue else .invalidNumber) rest)
  else
    let (all, dropped) := significand value ds
    afterDigits negative all (power - (ds.length - dropped.length : Nat)) rest

/-- What may follow the digits before the point: a point, an exponent or nothing. `dropped` counts
the digits that the integer does not hold. -/
def afterInteger (negative : Bool) (value : Nat) (dropped : Nat) (s : List UInt8) :
    Except Failure (Number × List UInt8) :=
  match s with
  | c :: r =>
    if c = Byte.point then fractionPart negative value dropped r
    else if Byte.isExponentMark c then exponentPart negative value dropped r
    else whole
  | [] => whole
where
  /-- A number without point and exponent. Minus zero is no integer. -/
  whole : Except Failure (Number × List UInt8) :=
    if dropped ≠ 0 then floatNumber negative value dropped s
    else if !negative then .ok (.int value, s)
    else if value = 0 ∨ (value : Int) > -minInt64 then floatNumber true value 0 s
    else .ok (.int (-value), s)

/-- A number without its sign. A zero is followed by no digit. -/
def magnitude (negative : Bool) (s : List UInt8) : Except Failure (Number × List UInt8) :=
  match s with
  | [] => .error (.before .eofValue [])
  | c :: r =>
    if c = 0x30 then
      match r with
      | d :: _ =>
        if Byte.isDigit d then .error (.atHead .invalidNumber r) else afterInteger negative 0 0 r
      | [] => afterInteger negative 0 0 r
    else if Byte.isDigit c then
      let (value, dropped) := significand 0 (c :: r.takeWhile Byte.isDigit)
      afterInteger negative value dropped.length (r.dropWhile Byte.isDigit)
    else .error (.before .invalidNumber r)

/-- A number that starts with the byte `c`, which is a digit or a minus sign. -/
def number (c : UInt8) (r : List UInt8) : Except Failure (Number × List UInt8) :=
  if c = Byte.minus then magnitude true r else magnitude false (c :: r)

theorem floatNumber_length {negative : Bool} {value : Nat} {e : Int} {s : List UInt8}
    {x : Number × List UInt8} (h : floatNumber negative value e s = .ok x) :
    x.2.length ≤ s.length := by
  unfold floatNumber at h
  split at h
  · cases h; exact Nat.le_refl _
  · cases h

theorem exponentPart_length {negative : Bool} {value : Nat} {power : Int} {s : List UInt8}
    {x : Number × List UInt8} (h : exponentPart negative value power s = .ok x) :
    x.2.length ≤ s.length := by
  unfold exponentPart at h
  have sign : ∀ (s : List UInt8), (match s with
      | c :: r => if c = Byte.plus then (false, r) else if c = Byte.minus then (true, r) else (false, s)
      | [] => (false, s)).2.length ≤ s.length := by
    intro s
    cases s with
    | nil => exact Nat.le_refl _
    | cons c r => dsimp only; split <;> (try split) <;> simp
  have hs := sign s
  revert h hs
  generalize (match s with
      | c :: r => if c = Byte.plus then (false, r) else if c = Byte.minus then (true, r) else (false, s)
      | [] => (false, s)) = p
  rcases p with ⟨down, t⟩
  dsimp only
  intro h hs
  cases t with
  | nil => cases h
  | cons d r =>
    dsimp only at h
    have hlen := exponentDigits_length (Byte.digitValue d) r
    simp only [List.length_cons] at hs
    split at h
    · split at h
      · next heq =>
        rw [heq] at hlen
        have := floatNumber_length h
        dsimp only at hlen
        omega
      · next rest heq =>
        rw [heq] at hlen
        split at h
        · cases h
        · cases h
          have := dropWhile_length_le Byte.isDigit rest
          dsimp only at hlen ⊢
          omega
    · cases h

theorem afterDigits_length {negative : Bool} {value : Nat} {power : Int} {s : List UInt8}
    {x : Number × List UInt8} (h : afterDigits negative value power s = .ok x) :
    x.2.length ≤ s.length := by
  unfold afterDigits at h
  split at h
  · split at h
    · have := exponentPart_length h
      simp only [List.length_cons]; omega
    · exact floatNumber_length h
  · exact floatNumber_length h

theorem fractionPart_length {negative : Bool} {value : Nat} {power : Int} {s : List UInt8}
    {x : Number × List UInt8} (h : fractionPart negative value power s = .ok x) :
    x.2.length ≤ s.length := by
  unfold fractionPart at h
  dsimp only at h
  split at h
  · cases h
  · exact Nat.le_trans (afterDigits_length h) (dropWhile_length_le _ _)

theorem afterInteger_length {negative : Bool} {value dropped : Nat} {s : List UInt8}
    {x : Number × List UInt8} (h : afterInteger negative value dropped s = .ok x) :
    x.2.length ≤ s.length := by
  have whole {x} (h : afterInteger.whole negative value dropped s = .ok x) :
      x.2.length ≤ s.length := by
    unfold afterInteger.whole at h
    split at h
    · exact floatNumber_length h
    · split at h
      · cases h; exact Nat.le_refl _
      · split at h
        · exact floatNumber_length h
        · cases h; exact Nat.le_refl _
  unfold afterInteger at h
  split at h
  · split at h
    · have := fractionPart_length h
      simp only [List.length_cons]; omega
    · split at h
      · have := exponentPart_length h
        simp only [List.length_cons]; omega
      · exact whole h
  · exact whole h

theorem magnitude_length {negative : Bool} {s : List UInt8} {x : Number × List UInt8}
    (h : magnitude negative s = .ok x) : x.2.length < s.length := by
  unfold magnitude at h
  split at h
  · cases h
  · next c r =>
    simp only [List.length_cons]
    split at h
    · split at h
      · split at h
        · cases h
        · have := afterInteger_length h; omega
      · have := afterInteger_length h; omega
    · split at h
      · have := afterInteger_length h
        have := dropWhile_length_le Byte.isDigit r
        omega
      · cases h

theorem number_length {c : UInt8} {r : List UInt8} {x : Number × List UInt8}
    (h : number c r = .ok x) : x.2.length ≤ r.length := by
  unfold number at h
  split at h
  · exact Nat.le_of_lt (magnitude_length h)
  · have := magnitude_length h
    simp only [List.length_cons] at this
    omega

/-! ## Strings -/

/-- Four hexadecimal digits. -/
def hexEscape (s : List UInt8) : Except Failure (Nat × List UInt8) :=
  match s with
  | a :: b :: c :: d :: r =>
    match Byte.hexValue? a, Byte.hexValue? b, Byte.hexValue? c, Byte.hexValue? d with
    | some w, some x, some y, some z => .ok (((w * 16 + x) * 16 + y) * 16 + z, r)
    | _, _, _, _ => .error (.before .invalidEscape r)
  | _ => .error (.before .eofString [])

theorem hexEscape_length {s : List UInt8} {x : Nat × List UInt8} (h : hexEscape s = .ok x) :
    x.2.length < s.length := by
  unfold hexEscape at h
  split at h
  · split at h
    · cases h; simp only [List.length_cons]; omega
    · cases h
  · cases h

/-- The second half of a surrogate pair whose first half is `high`. -/
def lowSurrogate (high : Nat) (s : List UInt8) : Except Failure (Char × List UInt8) :=
  match s with
  | [] => .error (.before .eofString [])
  | c :: r =>
    if c ≠ Byte.backslash then .error (.before .endOfHexEscape r)
    else
      match r with
      | [] => .error (.before .eofString [])
      | d :: t =>
        if d ≠ 0x75 then .error (.before .endOfHexEscape t)
        else
          match hexEscape t with
          | .error e => .error e
          | .ok (low, rest) =>
            if low < 0xDC00 || 0xDFFF < low then .error (.before .loneSurrogate rest)
            else .ok (Char.ofNat (0x10000 + (high - 0xD800) * 0x400 + (low - 0xDC00)), rest)

/-- The character that one byte after a backslash stands for. -/
def shortEscape? (c : UInt8) : Option Char :=
  if c = Byte.quote then some '"'
  else if c = Byte.backslash then some '\\'
  else if c = 0x2F then some '/'
  else if c = 0x62 then some '\x08'
  else if c = 0x66 then some '\x0c'
  else if c = 0x6E then some '\n'
  else if c = 0x72 then some '\r'
  else if c = 0x74 then some '\t'
  else none

/-- The character that an escape stands for, read after the backslash. -/
def escape (s : List UInt8) : Except Failure (Char × List UInt8) :=
  match s with
  | [] => .error (.before .eofString [])
  | c :: r =>
    match shortEscape? c with
    | some ch => .ok (ch, r)
    | none =>
      if c = 0x75 then
        match hexEscape r with
        | .error e => .error e
        | .ok (n, rest) =>
          if 0xDC00 ≤ n && n ≤ 0xDFFF then .error (.before .loneSurrogate rest)
          else if 0xD800 ≤ n && n ≤ 0xDBFF then lowSurrogate n rest
          else .ok (Char.ofNat n, rest)
      else .error (.before .invalidEscape r)

theorem lowSurrogate_length {high : Nat} {s : List UInt8} {x : Char × List UInt8}
    (h : lowSurrogate high s = .ok x) : x.2.length ≤ s.length := by
  unfold lowSurrogate at h
  split at h
  · cases h
  · split at h
    · cases h
    · split at h
      · cases h
      · split at h
        · cases h
        · split at h
          · cases h
          · next heq =>
            have := hexEscape_length heq
            split at h
            · cases h
            · rw [Except.ok.injEq] at h
              rw [← h]
              simp only [List.length_cons] at this ⊢
              omega

theorem escape_length {s : List UInt8} {x : Char × List UInt8} (h : escape s = .ok x) :
    x.2.length < s.length := by
  unfold escape at h
  split at h
  · cases h
  · next c r =>
    simp only [List.length_cons]
    split at h
    · cases h; exact Nat.lt_succ_self _
    split at h
    · split at h
      · cases h
      · next heq =>
        have := hexEscape_length heq
        split at h
        · cases h
        · split at h
          · have := lowSurrogate_length h
            dsimp only at *
            omega
          · cases h
            dsimp only at *
            omega
    · cases h

/-- The characters of a string up to its closing quote. Bytes that are no UTF-8 are a fault of the
string as a whole, which is reported at the closing quote: as many bytes before what follows it as the
string, without its escapes, has from the first such byte on. Their number so far is `broken`. -/
def stringBody (broken : Option Nat) (s : List UInt8) : Except Failure (List Char × List UInt8) :=
  match s with
  | [] => .error (.before .eofString [])
  | c :: r =>
    if c = Byte.quote then
      match broken with
      | some n => .error ⟨.invalidCodePoint, r.length + n⟩
      | none => .ok ([], r)
    else if c = Byte.backslash then
      match _h : escape r with
      | .error e => .error e
      | .ok (ch, t) =>
        (stringBody (broken.map (· + (Text.Utf8.encodeChar ch).length)) t).map
          fun (cs, rest) => (ch :: cs, rest)
    else if c < 0x20 then .error (.before .controlCharacter r)
    else
      match (Text.Utf8.next c r).1 with
      | some ch =>
        (stringBody (broken.map (· + Text.Utf8.taken c r)) (Text.Utf8.next c r).2).map
          fun (cs, rest) => (ch :: cs, rest)
      | none =>
        stringBody (some (broken.getD 0 + Text.Utf8.taken c r)) (Text.Utf8.next c r).2
termination_by s.length
decreasing_by
  · have := escape_length _h
    simp only [List.length_cons] at this ⊢
    omega
  · have := Text.Utf8.next_length_le c r
    simp only [List.length_cons]
    omega
  · have := Text.Utf8.next_length_le c r
    simp only [List.length_cons]
    omega

theorem exists_of_map_eq_ok {α β : Type} {f : α → β} {r : Except Failure α} {x : β}
    (h : r.map f = .ok x) : ∃ y, r = .ok y ∧ f y = x := by
  cases r with
  | error => cases h
  | ok y => cases h; exact ⟨y, rfl, rfl⟩

theorem stringBody_length {broken : Option Nat} {s : List UInt8} {x : List Char × List UInt8}
    (h : stringBody broken s = .ok x) : x.2.length < s.length := by
  fun_induction stringBody broken s generalizing x with
  | case1 => cases h
  | case2 => cases h
  | case3 => cases h; exact Nat.lt_succ_self _
  | case4 => cases h
  | case5 broken r ch t heq _ ih =>
    obtain ⟨y, hy, rfl⟩ := exists_of_map_eq_ok h
    have := ih hy
    have := escape_length heq
    simp only [List.length_cons] at *
    omega
  | case6 => cases h
  | case7 broken c r _ _ _ ch _ ih =>
    obtain ⟨y, hy, rfl⟩ := exists_of_map_eq_ok h
    have := ih hy
    have := Text.Utf8.next_length_le c r
    simp only [List.length_cons] at *
    omega
  | case8 broken c r _ _ _ _ ih =>
    have := ih h
    have := Text.Utf8.next_length_le c r
    simp only [List.length_cons] at *
    omega

/-- A string, read after its opening quote. -/
def string (s : List UInt8) : Except Failure (List Char × List UInt8) := stringBody none s

end TaskProbe.Json
