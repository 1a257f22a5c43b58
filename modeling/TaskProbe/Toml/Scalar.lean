import TaskProbe.Decimal.Numeral
import TaskProbe.Toml.Basic
import TaskProbe.Toml.Text

/-!
# Numbers, words, dates and times of TOML

A value that is neither text nor a container is a run of characters up to a sign of punctuation. Blanks
within the run belong to it, as the space between a date and a time does. `Scalar.read?` says which
value the whole run is.
-/

namespace TaskProbe.Toml

/-! ## Numbers -/

/-- Digits that may have single underscores between them, without the underscores. -/
def plainDigits? (isDigit : Char → Bool) : List Char → Option (List Char)
  | [] => none
  | [c] => if isDigit c then some [c] else none
  | c :: '_' :: s => if isDigit c then (plainDigits? isDigit s).map (c :: ·) else none
  | c :: s => if isDigit c then (plainDigits? isDigit s).map (c :: ·) else none

/-- Whether a character is a digit of a base. -/
def isDigitOf (base : Nat) (c : Char) : Bool := (Text.digitValue? base c).isSome

/-- Decimal digits of which the first is zero only when it is the only one. -/
def wholeDigits? (s : List Char) : Option (List Char) :=
  (plainDigits? Char.isDigit s).filter fun ds => ds.length = 1 || ds.head? ≠ some '0'

/-- An integer in a base other than ten, after the mark of the base. -/
def basedInteger? (base : Nat) (s : List Char) : Option Scalar :=
  if s.isEmpty then some .misread
  else
    ((plainDigits? (isDigitOf base) s).bind (Text.readDigits? base)).map fun n =>
      .integer (Int.ofNat n)

/-- A text without its underscores, each of which must stand between two digits; what else is in the
text does not matter. Letters up to `f` count as digits. -/
def joinDigits? : List Char → Option (List Char)
  | [] => some []
  | c :: '_' :: d :: s =>
    if isDigitOf 16 c && isDigitOf 16 d then (joinDigits? (d :: s)).map (c :: ·) else none
  | c :: s => if c = '_' then none else (joinDigits? s).map (c :: ·)

/-- Whether a text that starts like a decimal number is not an integer. -/
def isBeyondInteger (c : Char) : Bool := c == ' ' || c == '.' || c == 'e' || c == 'E'

/-- A decimal integer, which may have a sign. From the first underscore on only the neighbours of
underscores matter, so that the value may be misread; one underscore may also follow a sign. -/
def decimalInteger? (s : List Char) : Option Scalar :=
  let (negative, r) := splitSign s
  let valueOf (ds : List Char) : Scalar :=
    match Text.readDigits? 10 ds with
    | some n => .integer (if negative then -(n : Int) else n)
    | none => .misread
  if r.any isBeyondInteger then none
  else
    match r.takeWhile Char.isDigit, r.dropWhile Char.isDigit with
    | [], '_' :: c :: t =>
      if r.length < s.length ∧ isDigitOf 16 c then (joinDigits? (c :: t)).map valueOf else none
    | d :: ds, [] => if ds.isEmpty ∨ d ≠ '0' then some (valueOf r) else none
    | d :: _, '_' :: _ => if d ≠ '0' then (joinDigits? r).map valueOf else none
    | _, _ => none

/-- An integer; only a decimal one may have a sign. -/
def integer? (s : List Char) : Option Scalar :=
  match s with
  | '0' :: 'x' :: r => basedInteger? 16 r
  | '0' :: 'o' :: r => basedInteger? 8 r
  | '0' :: 'b' :: r => basedInteger? 2 r
  | _ => decimalInteger? s

/-- The digits after a point, where there is one. -/
def fraction? : List Char → Option (List Char)
  | [] => some []
  | '.' :: s => plainDigits? Char.isDigit s
  | _ => none

/-- The exponent after its mark, where there is one. -/
def exponent? : List Char → Option Int
  | [] => some 0
  | _ :: s =>
    let (negative, ds) := splitSign s
    ((plainDigits? Char.isDigit ds).bind (Text.readDigits? 10)).map
      fun n => if negative then -(n : Int) else n

/-- The digits before the point. An underscore may follow a sign; then there may also be needless
zeros. -/
def signedDigits? (hasSign : Bool) (s : List Char) : Option (List Char) :=
  match hasSign, s with
  | true, '_' :: r => plainDigits? Char.isDigit r
  | _, s => wholeDigits? s

/-- A number with a point or an exponent, or both. -/
def numeral? (s : List Char) : Option Numeral :=
  let (negative, r) := splitSign s
  let isMark (c : Char) := c == 'e' || c == 'E'
  let mantissa := r.takeWhile (!isMark ·)
  match signedDigits? (r.length < s.length) (mantissa.takeWhile (· ≠ '.')),
      fraction? (mantissa.dropWhile (· ≠ '.')), exponent? (r.dropWhile (!isMark ·)) with
  | some whole, some fraction, some exponent =>
    (Text.readDigits? 10 (whole ++ fraction)).map fun digits =>
      ⟨negative, digits, exponent - fraction.length⟩
  | _, _, _ => none

/-- A number that is no integer. -/
def real? (s : List Char) : Option Real :=
  let (negative, r) := splitSign s
  if r = ['i', 'n', 'f'] then some (.infinite negative)
  else if r = ['n', 'a', 'n'] then some .nan
  else (numeral? s).map fun n =>
    match n.toBinary64? with
    | some x => .finite x
    | none => .tooLarge

/-! ## Dates and times -/

/-- A number of exactly `n` digits, and what follows it. -/
def fixedDigits? (n : Nat) (s : List Char) : Option (Nat × List Char) :=
  if s.length < n then none
  else (Text.readDigits? 10 (s.take n)).map fun value => (value, s.drop n)

/-- How many days a month has. -/
def daysOfMonth (year month : Nat) : Nat :=
  if month = 2 then if year % 4 = 0 ∧ (year % 100 ≠ 0 ∨ year % 400 = 0) then 29 else 28
  else if month = 4 ∨ month = 6 ∨ month = 9 ∨ month = 11 then 30
  else 31

/-- The text after a date, if it starts with one. -/
def skipDate? (s : List Char) : Option (List Char) :=
  match fixedDigits? 4 s with
  | some (year, '-' :: s) =>
    match fixedDigits? 2 s with
    | some (month, '-' :: s) =>
      match fixedDigits? 2 s with
      | some (day, s) =>
        if 1 ≤ month ∧ month ≤ 12 ∧ 1 ≤ day ∧ day ≤ daysOfMonth year month then some s else none
      | none => none
    | _ => none
  | _ => none

/-- The text after hours and minutes, if it starts with them. -/
def skipHourMinute? (s : List Char) : Option (List Char) :=
  match fixedDigits? 2 s with
  | some (hour, ':' :: s) =>
    match fixedDigits? 2 s with
    | some (minute, s) => if hour ≤ 23 ∧ minute ≤ 59 then some s else none
    | none => none
  | _ => none

/-- The text after the digits of a fraction of a second, of which there is at least one. -/
def skipFraction? (s : List Char) : Option (List Char) :=
  match s with
  | c :: r => if c.isDigit then some (r.dropWhile Char.isDigit) else none
  | [] => none

/-- The text after a time of the day, if it starts with one. Seconds may be missing, and there may be
a leap second. -/
def skipTime? (s : List Char) : Option (List Char) :=
  match skipHourMinute? s with
  | some (':' :: s) =>
    match fixedDigits? 2 s with
    | some (second, s) =>
      if 60 < second then none
      else
        match s with
        | '.' :: r => skipFraction? r
        | _ => some s
    | none => none
  | rest => rest

/-- Whether a text is the offset of a time zone, or empty. -/
def isOffset : List Char → Bool
  | [] => true
  | c :: s =>
    if c = 'Z' ∨ c = 'z' then s.isEmpty
    else if c = '+' ∨ c = '-' then skipHourMinute? s == some []
    else false

/-- Whether a text is a date, a time, or both; only a date with a time can have an offset. -/
def isMoment (s : List Char) : Bool :=
  match skipDate? s with
  | some [] => true
  | some (c :: r) => (c == 'T' || c == 't' || c == ' ') && (skipTime? r).any isOffset
  | none => skipTime? s == some []

/-! ## The run of characters -/

/-- A character that values other than texts and containers are made of. -/
def isScalarChar (c : Char) : Bool :=
  not (['=', ',', '[', ']', '\x7b', '\x7d', '#', ' ', '\t', '\r', '\n'].contains c)

/-- A character that a run goes on with after blanks. -/
def isPartStart (c : Char) : Bool := isScalarChar c && c ≠ '.' && c ≠ '"' && c ≠ '\''

/-- The run of characters at the front, and what follows it. -/
def splitRun (s : List Char) : List Char × List Char :=
  let rest := s.dropWhile isScalarChar
  match skipSpaces rest with
  | c :: t =>
    if _h : (c :: t).length < rest.length ∧ isPartStart c then
      (s.takeWhile isScalarChar ++ rest.takeWhile isSpace ++ (splitRun (c :: t)).1,
        (splitRun (c :: t)).2)
    else (s.takeWhile isScalarChar, rest)
  | [] => (s.takeWhile isScalarChar, rest)
termination_by s.length
decreasing_by all_goals exact Nat.lt_of_lt_of_le _h.1 (length_dropWhile_le isScalarChar s)

/-- The value that a whole run of characters is. -/
def Scalar.read? (s : List Char) : Option Scalar :=
  if s = "true".toList then some (.boolean true)
  else if s = "false".toList then some (.boolean false)
  else
    match integer? s, real? s with
    | some n, _ => some n
    | none, some x => some (.real x)
    | none, none => if isMoment s then some .moment else none

theorem splitRun_append (s : List Char) : (splitRun s).1 ++ (splitRun s).2 = s := by
  fun_induction splitRun s with
  | case1 s rest c t hs h ih =>
    have hrest : rest.takeWhile isSpace ++ (c :: t) = rest := by
      rw [← hs]
      exact List.takeWhile_append_dropWhile
    rw [List.append_assoc, ih, List.append_assoc, hrest]
    exact List.takeWhile_append_dropWhile
  | case2 => exact List.takeWhile_append_dropWhile
  | case3 => exact List.takeWhile_append_dropWhile

theorem Scalar.read?_nil : Scalar.read? [] = none := by rfl

end TaskProbe.Toml
