import TaskProbe.Decimal.Binary64
import TaskProbe.Text.Digits

/-!
# Decimal numerals

Reading numbers in decimal notation: integers with a sign, and numbers with a point and an exponent,
which are rounded once to binary64.
-/

namespace TaskProbe

/-- A sign and what follows it; without a sign the text is positive. -/
def splitSign : List Char → Bool × List Char
  | '-' :: s => (true, s)
  | '+' :: s => (false, s)
  | s => (false, s)

/-- An integer: a sign if there is one, and decimal digits. -/
def readInt? (s : List Char) : Option Int :=
  let (negative, ds) := splitSign s
  (Text.readDigits? 10 ds).map fun n => if negative then -(n : Int) else n

/-- A number in decimal notation, `± digits · 10 ^ exponent`. -/
structure Numeral where
  negative : Bool
  digits : Nat
  exponent : Int
  deriving DecidableEq, Repr

namespace Numeral

/-- Reads a sign, digits with a point anywhere among them, and an exponent; all but one digit may be
missing. -/
def read? (s : List Char) : Option Numeral :=
  let (negative, s) := splitSign s
  let whole := s.takeWhile Char.isDigit
  let s := s.dropWhile Char.isDigit
  let (fraction, s) :=
    match s with
    | '.' :: r => (r.takeWhile Char.isDigit, r.dropWhile Char.isDigit)
    | _ => ([], s)
  match Text.readDigits? 10 (whole ++ fraction) with
  | none => none
  | some digits =>
    match s with
    | [] => some ⟨negative, digits, -(fraction.length : Int)⟩
    | c :: r =>
      if c = 'e' ∨ c = 'E' then
        (readInt? r).map fun e => ⟨negative, digits, e - fraction.length⟩
      else none

/-- A power of ten beyond which every number but zero is too large, or as good as zero, whatever its
digits are. -/
def extreme : Int := 400

/-- The nearest binary64 number, or none where the numeral is too large for one. -/
def toBinary64? (n : Numeral) : Option Binary64 :=
  let size : Int := n.exponent + (Text.decimal n.digits).length
  if n.digits = 0 ∨ size < -extreme then some (.zero n.negative)
  else if extreme < size then none
  else
    match n.exponent with
    | .ofNat k => Binary64.ofRatio n.negative (n.digits * Nat.pow 10 k) 1
    | .negSucc k => Binary64.ofRatio n.negative n.digits (Nat.pow 10 (k + 1))

end Numeral

end TaskProbe
