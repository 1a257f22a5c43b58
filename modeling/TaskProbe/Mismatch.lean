import TaskProbe.Decimal.Bounds
import TaskProbe.Text.Quoted

/-!
# Data of the wrong shape

What is wrong when a well-formed document does not have the shape its reader asks for, and the
wording of it.
-/

namespace TaskProbe

/-- What stood in the place of the value that was asked for. A number with a fraction is given by
its written form, which the format at hand decides. A wide integer is one that needs more than 64
bits. -/
inductive Found where
  | null
  | bool (b : Bool)
  | int (n : Int)
  | wideInt (n : Int)
  | float (text : String)
  | string (s : String)
  | sequence
  | map
  deriving DecidableEq, Repr

/-- The value in words. -/
def Found.message : Found → String
  | .null => "null"
  | .bool b => "boolean `" ++ (if b then "true" else "false") ++ "`"
  | .int n => "integer `" ++ String.ofList (Text.decimalInt n) ++ "`"
  | .wideInt n =>
    "integer `" ++ String.ofList (Text.decimalInt n) ++ "` as "
      ++ (if n ≤ maxInt128 then "i128" else "u128")
  | .float text => "floating point `" ++ text ++ "`"
  | .string s => "string " ++ String.ofList (Text.quoted s.toList)
  | .sequence => "sequence"
  | .map => "map"

/-- Why a value does not have the shape asked for. -/
inductive Mismatch where
  | type (found : Found) (expected : String)
  | value (found : Found) (expected : String)
  | length (found : Nat) (expected : String)
  | unknownField (name : String) (known : List String)
  | unknownVariant (name : String) (known : List String)
  | missingField (name : String)
  | duplicateField (name : String)
  deriving DecidableEq, Repr

/-- A name between backticks. -/
def ticked (name : String) : String := "`" ++ name ++ "`"

/-- The names that would have been accepted: one alone, two with `or`, more as a list. -/
def oneOf : List String → String
  | [] => "nothing"
  | [a] => ticked a
  | [a, b] => ticked a ++ " or " ++ ticked b
  | names => "one of " ++ String.intercalate ", " (names.map ticked)

/-- The mismatch in words. -/
def Mismatch.message : Mismatch → String
  | .type found expected => "invalid type: " ++ found.message ++ ", expected " ++ expected
  | .value found expected => "invalid value: " ++ found.message ++ ", expected " ++ expected
  | .length found expected =>
    "invalid length " ++ String.ofList (Text.decimal found) ++ ", expected " ++ expected
  | .unknownField name known => "unknown field " ++ ticked name ++ ", expected " ++ oneOf known
  | .unknownVariant name known => "unknown variant " ++ ticked name ++ ", expected " ++ oneOf known
  | .missingField name => "missing field " ++ ticked name
  | .duplicateField name => "duplicate field " ++ ticked name

end TaskProbe
