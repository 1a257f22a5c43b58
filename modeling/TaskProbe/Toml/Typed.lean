import TaskProbe.Decimal.Bounds
import TaskProbe.Decimal.Plain
import TaskProbe.Mismatch
import TaskProbe.Toml.Parser

/-!
# Reading TOML of a known shape

Readers for a flag, a text, a number, and for a section: a table whose keys are all known. A section
may also be an array of the values of its fields, in their order. The fields of a table are read in
the order of their keys, and the first fault is the one reported.
-/

namespace TaskProbe.Toml

/-- Why a text does not hold what is asked for: it is no document, holds a number that has no value
of any type, or has another shape. -/
inductive Error where
  | malformed
  | noValue
  | mismatch (m : Mismatch)
  deriving DecidableEq, Repr

/-- The error in words. -/
def Error.message : Error → String
  | .malformed | .noValue => "syntax"
  | .mismatch m => m.message

/-! ## Single values -/

/-- Whether 64 bits hold an integer, signed or unsigned. -/
def isNarrow (n : Int) : Bool := minInt64 ≤ n && n ≤ maxUInt64

/-- Whether 128 bits hold an integer, signed or unsigned. -/
def isHeld (n : Int) : Bool := minInt128 ≤ n && n ≤ maxUInt128

/-- A number that is no integer, as messages show it. -/
def Real.text? : Real → Option String
  | .finite x => some (String.ofList x.writePlain)
  | .infinite negative => some (if negative then "-inf" else "inf")
  | .nan => some "NaN"
  | .tooLarge => none

/-- A value as messages show it; numbers that are too large or misread cannot be shown. -/
def Node.found? : Node → Option Found
  | .scalar (.string s) => some (.string (String.ofList s))
  | .scalar (.integer n) =>
    if isNarrow n then some (.int n) else if isHeld n then some (.wideInt n) else none
  | .scalar .misread => none
  | .scalar (.real x) => x.text?.map Found.float
  | .scalar (.boolean b) => some (.bool b)
  | .scalar .moment => some .map
  | .array _ | .tables _ => some .sequence
  | .table .. => some .map

/-- The error for a value of another type than the expected one. -/
def wrongType (expected : String) (node : Node) : Error :=
  match node.found? with
  | some found => .mismatch (.type found expected)
  | none => .noValue

/-- A flag. -/
def boolean : Node → Except Error Bool
  | .scalar (.boolean b) => .ok b
  | node => .error (wrongType "a boolean" node)

/-- A text. -/
def text : Node → Except Error String
  | .scalar (.string s) => .ok (String.ofList s)
  | node => .error (wrongType "a string" node)

/-- An unsigned integer of 64 bits. -/
def uint64 : Node → Except Error Nat
  | .scalar (.integer n) =>
    if isNarrow n then
      if 0 ≤ n then .ok n.toNat else .error (.mismatch (.value (.int n) "u64"))
    else .error (wrongType "u64" (.scalar (.integer n)))
  | node => .error (wrongType "u64" node)

/-! ## Sections -/

/-- What a section looks like: its name in messages, the names of its fields in their order, and how
the value of a field with one of these names is put into it. -/
structure Shape (α : Type) where
  name : String
  fields : List String
  empty : α
  put : α → String → Node → Except Error α

/-- The name of the one field of a date or time that is read as a table. -/
def momentField : String := "$__toml_private_datetime"

namespace Shape

variable {α : Type}

/-- Puts one field of a table into a section. -/
def putKnown (shape : Shape α) (content : α) (field : String × Node) : Except Error α :=
  if shape.fields.contains field.1 then shape.put content field.1 field.2
  else .error (.mismatch (.unknownField field.1 shape.fields))

/-- Reads a section from the fields of a table. -/
def ofFields (shape : Shape α) (fields : Fields) : Except Error α :=
  fields.foldlM shape.putKnown shape.empty

/-- Reads a section from the values of its fields. -/
def ofItems (shape : Shape α) (items : List Node) : Except Error α :=
  let n := shape.fields.length
  let missing :=
    Error.mismatch (.length items.length
      (shape.name ++ " with " ++ String.ofList (Text.decimal n)
        ++ (if n = 1 then " element" else " elements")))
  let put (content : α) (field : String × Nat) : Except Error α :=
    match items[field.2]? with
    | none => .error missing
    | some node => shape.put content field.1 node
  shape.fields.zipIdx.foldlM put shape.empty

/-- Reads a section. -/
def read (shape : Shape α) : Node → Except Error α
  | .table _ fields => shape.ofFields fields
  | .array items => shape.ofItems items
  | .tables items => shape.ofItems (items.map (.table .headed ·))
  | .scalar .moment => .error (.mismatch (.unknownField momentField shape.fields))
  | node => .error (wrongType shape.name node)

/-- Reads a whole document as a section. -/
def parse (shape : Shape α) (s : List Char) : Except Error α :=
  match parse? s with
  | none => .error .malformed
  | some fields => shape.ofFields fields

end Shape

end TaskProbe.Toml
