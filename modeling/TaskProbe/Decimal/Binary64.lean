/-!
# Binary floating point of 64 bits

A finite number of the format is `± significand · 2 ^ exponent`. The arithmetic is exact on natural
numbers and rounds once at the end, to the nearest number of the format and to the even one of two
equally near (`ofRatio`). A result above the largest finite number is none.
-/

namespace TaskProbe

/-- A finite binary64 number, `± significand · 2 ^ exponent`. Rounding gives a significand below
`2 ^ 53`, and one of at least `2 ^ 52` unless the exponent is the least one. -/
structure Binary64 where
  negative : Bool
  significand : Nat
  exponent : Int
  deriving DecidableEq, Repr

namespace Binary64

/-- The least significand of a normal number, `2 ^ 52`. -/
def leastNormal : Nat := 0x10000000000000

/-- The exponent of the subnormal numbers. -/
def minExponent : Int := -1074

/-- The exponent of the largest numbers. -/
def maxExponent : Int := 971

/-- Zero with a sign. -/
def zero (negative : Bool) : Binary64 := ⟨negative, 0, minExponent⟩

/-- Whether the number is zero of either sign. -/
def isZero (x : Binary64) : Bool := x.significand == 0

/-! ## Rounding -/

/-- `num / den` rounded to an integer, a half to the even one. -/
def roundHalfEven (num den : Nat) : Nat :=
  let q := num / den
  let r := num % den
  if 2 * r < den then q
  else if den < 2 * r then q + 1
  else q + q % 2

/-- `num · 2 ^ k / den` as a numerator and a denominator. -/
def scale2 (num den : Nat) (k : Int) : Nat × Nat :=
  match k with
  | .ofNat k => (num <<< k, den)
  | .negSucc k => (num, den <<< (k + 1))

/-- The greatest `k` with `2 ^ k ≤ num / den`, for positive arguments. -/
def floorLog2 (num den : Nat) : Int :=
  let k : Int := (num.log2 : Int) - (den.log2 : Int)
  let (a, b) := scale2 num den (-k)
  if a < b then k - 1 else k

/-- The number of the format nearest to `num / den`, or none where that would be above all finite
ones. -/
def ofRatio (negative : Bool) (num den : Nat) : Option Binary64 :=
  if num = 0 then some (zero negative)
  else
    let e := max minExponent (floorLog2 num den - 52)
    let (a, b) := scale2 num den (-e)
    let m := roundHalfEven a b
    let (m, e) := if m = 2 * leastNormal then (leastNormal, e + 1) else (m, e)
    if maxExponent < e then none else some ⟨negative, m, e⟩

/-- The magnitude as a numerator and a denominator. -/
def ratio (x : Binary64) : Nat × Nat := scale2 x.significand 1 x.exponent

/-! ## Arithmetic -/

/-- The product, rounded. -/
def mul (x y : Binary64) : Option Binary64 :=
  let (a, b) := x.ratio
  let (c, d) := y.ratio
  ofRatio (x.negative != y.negative) (a * c) (b * d)

/-- The quotient by a number other than zero, rounded. -/
def div (x y : Binary64) : Option Binary64 :=
  let (a, b) := x.ratio
  let (c, d) := y.ratio
  ofRatio (x.negative != y.negative) (a * d) (b * c)

/-- The integer that the number is, if it is one. -/
def toInt? (x : Binary64) : Option Int :=
  let (a, b) := x.ratio
  if a % b = 0 then some (if x.negative then -((a / b : Nat) : Int) else ((a / b : Nat) : Int))
  else none

end Binary64

end TaskProbe
