/-!
# Digits

Natural numbers and integers written in a base of at most 16, and digits read back.
`hexValue?_digitChar` says that every written digit is read as itself.
-/

namespace TaskProbe.Text

/-! ## Single digits -/

/-- The digit `d` in lower case, for `d` below 16. -/
def digitChar (d : Nat) : Char :=
  if d < 10 then Char.ofNat (0x30 + d) else Char.ofNat (0x57 + d)

/-- The digit `d` in upper case, for `d` below 16. -/
def upperDigitChar (d : Nat) : Char :=
  if d < 10 then Char.ofNat (0x30 + d) else Char.ofNat (0x37 + d)

/-- The value of a hexadecimal digit of either case. -/
def hexValue? (c : Char) : Option Nat :=
  let n := c.toNat
  if 0x30 ≤ n && n ≤ 0x39 then some (n - 0x30)
  else if 0x61 ≤ n && n ≤ 0x66 then some (n - 0x57)
  else if 0x41 ≤ n && n ≤ 0x46 then some (n - 0x37)
  else none

/-- The value of a digit below `base`, for a base of at most 16. -/
def digitValue? (base : Nat) (c : Char) : Option Nat :=
  (hexValue? c).filter (· < base)

theorem hexValue?_digitChar {d : Nat} (h : d < 16) : hexValue? (digitChar d) = some d := by
  have hall : ∀ e ∈ List.range 16, hexValue? (digitChar e) = some e := by decide
  exact hall d (List.mem_range.mpr h)

/-! ## Numbers -/

/-- The digits of `n` in `base`, most significant first; zero has one digit. -/
def digits (base : Nat) (n : Nat) : List Char :=
  if base ≤ n ∧ 1 < base then digits base (n / base) ++ [digitChar (n % base)]
  else [digitChar n]
termination_by n
decreasing_by exact Nat.div_lt_self (by omega) (by omega)

/-- The decimal digits of `n`. -/
def decimal (n : Nat) : List Char := digits 10 n

/-- An integer in decimal, with `-` before a negative one. -/
def decimalInt : Int → List Char
  | .ofNat n => decimal n
  | .negSucc n => '-' :: decimal (n + 1)

/-- The number that a list of digits stands for, each digit shifting the value so far. -/
def valueOf (base : Nat) (value : Nat) : List Nat → Nat
  | [] => value
  | d :: ds => valueOf base (value * base + d) ds

/-- Reads a non-empty list of digits of `base`, and nothing else. -/
def readDigits? (base : Nat) (s : List Char) : Option Nat :=
  if s.isEmpty then none else (s.mapM (digitValue? base)).map (valueOf base 0)

/-- A byte as two upper-case hexadecimal digits. -/
def upperHexByte (b : UInt8) : List Char :=
  [upperDigitChar (b.toNat / 16), upperDigitChar (b.toNat % 16)]

end TaskProbe.Text
