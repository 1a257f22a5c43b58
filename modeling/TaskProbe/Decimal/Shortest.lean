import TaskProbe.Decimal.Binary64
import TaskProbe.Text.Digits

/-!
# Shortest decimal form

The fewest decimal digits that read back as the same binary64 number. For one digit, two digits and
so on, the two neighbours of the number on that decimal grid are tried; the first grid with a
neighbour that reads back wins, of two such neighbours the nearer one, and of two equally near the
even one. Seventeen digits always suffice.
-/

namespace TaskProbe

/-- The decimal number `digits · 10 ^ exponent`. -/
structure Decimal where
  digits : Nat
  exponent : Int
  deriving DecidableEq, Repr

namespace Decimal

/-! ## Comparing with powers of ten -/

/-- `num · 10 ^ k / den` as a numerator and a denominator. -/
def scale10 (num den : Nat) (k : Int) : Nat × Nat :=
  match k with
  | .ofNat k => (num * Nat.pow 10 k, den)
  | .negSucc k => (num, den * Nat.pow 10 (k + 1))

/-- Whether `10 ^ k ≤ num / den`. -/
def powLe (num den : Nat) (k : Int) : Bool :=
  let (a, b) := scale10 num den (-k)
  b ≤ a

/-- The greatest `k` with `10 ^ k ≤ num / den`: an estimate from the binary logarithm, which is off
by one at most. -/
def floorLog10 (num den : Nat) : Int :=
  let k : Int := Int.fdiv (Binary64.floorLog2 num den * 1233) 4096
  if powLe num den (k + 1) then k + 1 else if powLe num den k then k else k - 1

/-! ## The interval that rounds to a number -/

/-- The numbers that round to a given one lie between two bounds over one denominator. -/
structure Interval where
  lower : Nat
  value : Nat
  upper : Nat
  den : Nat
  closed : Bool

/-- Half of the way to the neighbour on either side; below a power of two the neighbour is nearer.
The bounds themselves round to the number when its significand is even. -/
def Interval.of (x : Binary64) : Interval :=
  let (num, den) := Binary64.scale2 1 4 x.exponent
  let m := x.significand
  let below := if m = Binary64.leastNormal ∧ Binary64.minExponent < x.exponent then 1 else 2
  ⟨(4 * m - below) * num, 4 * m * num, (4 * m + 2) * num, den, m % 2 = 0⟩

/-- Whether `c · 10 ^ p` lies in the interval. -/
def Interval.contains (i : Interval) (c : Nat) (p : Int) : Bool :=
  let (a, b) := scale10 c 1 p
  let x := a * i.den
  if i.closed then i.lower * b ≤ x && x ≤ i.upper * b else i.lower * b < x && x < i.upper * b

/-- The shortest form on the grid of `10 ^ p`: the neighbour below or above. -/
def Interval.onGrid (i : Interval) (p : Int) : Option Nat :=
  let (a, b) := scale10 i.value i.den (-p)
  let low := a / b
  let r := a % b
  match i.contains low p, i.contains (low + 1) p with
  | true, true =>
    if 2 * r < b then some low
    else if b < 2 * r then some (low + 1)
    else some (low + low % 2)
  | true, false => some low
  | false, true => some (low + 1)
  | false, false => none

/-- Tries the grids of `n`, `n + 1`, … digits, `more` of them, for a number whose first digit counts
`10 ^ top`. -/
def search (i : Interval) (top : Int) (n : Nat) : Nat → Decimal
  | 0 => ⟨i.value / i.den, 0⟩
  | more + 1 =>
    let p := top - n + 1
    match i.onGrid p with
    | some c => ⟨c, p⟩
    | none => search i top (n + 1) more

/-- Without zeros at the end of the digits. -/
def stripZeros (d : Decimal) : Decimal :=
  if d.digits ≠ 0 ∧ d.digits % 10 = 0 then stripZeros ⟨d.digits / 10, d.exponent + 1⟩ else d
termination_by d.digits
decreasing_by exact Nat.div_lt_self (by omega) (by decide)

end Decimal

/-- The shortest decimal magnitude that reads back as `x`. -/
def Binary64.shortest (x : Binary64) : Decimal :=
  if x.isZero then ⟨0, 0⟩
  else
    let (num, den) := x.ratio
    (Decimal.search (Decimal.Interval.of x) (Decimal.floorLog10 num den) 1 17).stripZeros

end TaskProbe
