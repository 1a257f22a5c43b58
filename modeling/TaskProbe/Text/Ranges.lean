/-!
# Tables of characters

A class of characters as the ranges of their codes, in ascending order. A table is searched by halving.
-/

namespace TaskProbe.Text

/-- Whether some range among the `size` ones from index `low` on holds `n`: looks at the middle one
and goes on with the half below or above it. -/
def inPart (table : Array (Nat × Nat)) (n low size : Nat) : Bool :=
  if size = 0 then false
  else
    let mid := low + size / 2
    match table[mid]? with
    | none => false
    | some (first, last) =>
      if n < first then inPart table n low (size / 2)
      else if last < n then inPart table n (mid + 1) (size - size / 2 - 1)
      else true
termination_by size
decreasing_by all_goals omega

/-- Whether a code lies in one of the ranges of a table. -/
def inRanges (table : Array (Nat × Nat)) (n : Nat) : Bool := inPart table n 0 table.size

end TaskProbe.Text
