import TaskProbe.Decimal.Shortest

/-!
# Plain decimal notation

Decimal numbers without an exponent, with at least one digit on either side of the point.
-/

namespace TaskProbe

/-- The digits of a number shifted by a power of ten, with a point. -/
def Decimal.writePlain (ds : List Char) (exponent : Int) : List Char :=
  match exponent with
  | .ofNat zeros => ds ++ List.replicate zeros '0' ++ ['.', '0']
  | .negSucc k =>
    if k + 1 < ds.length then ds.take (ds.length - (k + 1)) ++ '.' :: ds.drop (ds.length - (k + 1))
    else ['0', '.'] ++ List.replicate (k + 1 - ds.length) '0' ++ ds

/-- The shortest digits that read back, without an exponent however large or small the number is. -/
def Binary64.writePlain (x : Binary64) : List Char :=
  let d := x.shortest
  let magnitude := Decimal.writePlain (Text.decimal d.digits) d.exponent
  if x.negative then '-' :: magnitude else magnitude

end TaskProbe
