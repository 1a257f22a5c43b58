import TaskProbe.Decimal.Binary64
import TaskProbe.Keyed

/-!
# JSON values

An object is a list of fields in ascending order of their keys, each key once; of several fields with
one key in a text the last one counts (`Value.ofFields`).
-/

namespace TaskProbe.Json

/-- A number: an integer of 64 bits, signed or unsigned, or a binary64 number. -/
inductive Number where
  | int (n : Int)
  | float (x : Binary64)
  deriving DecidableEq, Repr

/-- A JSON value. -/
inductive Value where
  | null
  | bool (b : Bool)
  | number (n : Number)
  | string (s : String)
  | array (items : List Value)
  | object (fields : List (String × Value))
  deriving Repr

namespace Value

/-- The object with the given fields, of which the last one of each key counts. -/
def ofFields (fields : List (String × Value)) : Value :=
  .object (fields.foldl (fun object field => Keyed.insert field.1 field.2 object) [])

end Value

end TaskProbe.Json
