/-!
# Lists of fields

Values by key, as a list in ascending order of the keys with each key once. Keys are ordered by code
points, which is also the order of their UTF-8 bytes. `insert` keeps that order.
-/

namespace TaskProbe

/-- Values by key. -/
abbrev Keyed (α : Type) := List (String × α)

namespace Keyed

variable {α : Type}

/-- Puts a value in its place by key, instead of the value of the same key if there is one. -/
def insert (key : String) (value : α) : List (String × α) → List (String × α)
  | [] => [(key, value)]
  | (k, v) :: fields =>
    if key < k then (key, value) :: (k, v) :: fields
    else if key = k then (key, value) :: fields
    else (k, v) :: insert key value fields

/-- The value of a key. -/
def lookup (key : String) : List (String × α) → Option α
  | [] => none
  | (k, v) :: fields => if k = key then some v else lookup key fields

end Keyed

end TaskProbe
