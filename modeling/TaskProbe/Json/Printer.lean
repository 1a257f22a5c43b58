import TaskProbe.Decimal.Plain
import TaskProbe.Json.Basic

/-!
# JSON texts

The two written forms of a value: compact, without any blank, and pretty, one item or field a line
and two spaces of indentation for each level. Both write strings and numbers alike; an empty array
or object stays on one line.
-/

namespace TaskProbe.Json

/-- How a value is laid out. -/
inductive Layout where
  | pretty
  | compact
  deriving DecidableEq, Repr

/-! ## Strings -/

/-- One character inside a string. Only the quote, the backslash and control characters below the
space are escaped. -/
def escapeChar (c : Char) : List Char :=
  if c = '"' then ['\\', '"']
  else if c = '\\' then ['\\', '\\']
  else if c = '\x08' then ['\\', 'b']
  else if c = '\x0c' then ['\\', 'f']
  else if c = '\n' then ['\\', 'n']
  else if c = '\r' then ['\\', 'r']
  else if c = '\t' then ['\\', 't']
  else if c.toNat < 0x20 then
    ['\\', 'u', '0', '0', Text.digitChar (c.toNat / 16), Text.digitChar (c.toNat % 16)]
  else [c]

/-- A string in quotes. -/
def writeString (s : List Char) : List Char := '"' :: s.flatMap escapeChar ++ ['"']

/-! ## Numbers -/

/-- The least power of ten of a first digit that is written without an exponent. -/
def leastPlain : Int := -5

/-- The greatest power of ten of a first digit that is written without an exponent. -/
def greatestPlain : Int := 15

/-- A decimal magnitude with one digit before the point and a signed exponent. -/
def writeScientific (ds : List Char) (first : Int) : List Char :=
  let mantissa :=
    match ds with
    | d :: e :: more => d :: '.' :: e :: more
    | _ => ds
  let sign := if first < 0 then '-' else '+'
  mantissa ++ 'e' :: sign :: Text.decimal first.natAbs

/-- The shortest digits that read back, written plainly where the power of ten of the first digit
allows it. -/
def writeFloat (x : Binary64) : List Char :=
  let d := x.shortest
  let ds := Text.decimal d.digits
  let first := d.exponent + ds.length - 1
  let magnitude :=
    if leastPlain ≤ first ∧ first ≤ greatestPlain then Decimal.writePlain ds d.exponent
    else writeScientific ds first
  if x.negative then '-' :: magnitude else magnitude

/-- A number. -/
def writeNumber : Number → List Char
  | .int n => Text.decimalInt n
  | .float x => writeFloat x

/-! ## Values -/

/-- The start of a line at a level. -/
def newLine (level : Nat) : List Char := '\n' :: List.replicate (2 * level) ' '

mutual

/-- A value without blanks. -/
def writeCompact : Value → List Char
  | .null => "null".toList
  | .bool true => "true".toList
  | .bool false => "false".toList
  | .number n => writeNumber n
  | .string s => writeString s.toList
  | .array [] => ['[', ']']
  | .array (x :: xs) => '[' :: writeCompact x ++ compactItems xs
  | .object [] => ['\x7b', '\x7d']
  | .object ((k, v) :: fields) =>
    '\x7b' :: writeString k.toList ++ ':' :: writeCompact v ++ compactFields fields

/-- The items after the first one, and the end of the array. -/
def compactItems : List Value → List Char
  | [] => [']']
  | x :: xs => ',' :: writeCompact x ++ compactItems xs

/-- The fields after the first one, and the end of the object. -/
def compactFields : List (String × Value) → List Char
  | [] => ['\x7d']
  | (k, v) :: fields => ',' :: writeString k.toList ++ ':' :: writeCompact v ++ compactFields fields

end

mutual

/-- A value over several lines, at a level of indentation. -/
def writePretty (level : Nat) : Value → List Char
  | .null => "null".toList
  | .bool true => "true".toList
  | .bool false => "false".toList
  | .number n => writeNumber n
  | .string s => writeString s.toList
  | .array [] => ['[', ']']
  | .array (x :: xs) =>
    '[' :: newLine (level + 1) ++ writePretty (level + 1) x ++ prettyItems level xs
  | .object [] => ['\x7b', '\x7d']
  | .object ((k, v) :: fields) =>
    '\x7b' :: newLine (level + 1) ++ writeString k.toList ++ ':' :: ' ' :: writePretty (level + 1) v
      ++ prettyFields level fields

/-- The items after the first one, and the end of the array. -/
def prettyItems (level : Nat) : List Value → List Char
  | [] => newLine level ++ [']']
  | x :: xs => ',' :: newLine (level + 1) ++ writePretty (level + 1) x ++ prettyItems level xs

/-- The fields after the first one, and the end of the object. -/
def prettyFields (level : Nat) : List (String × Value) → List Char
  | [] => newLine level ++ ['\x7d']
  | (k, v) :: fields =>
    ',' :: newLine (level + 1) ++ writeString k.toList ++ ':' :: ' ' :: writePretty (level + 1) v
      ++ prettyFields level fields

end

/-- The written form of a value. -/
def Value.write (v : Value) : Layout → List Char
  | .pretty => writePretty 0 v
  | .compact => writeCompact v

/-- The compact text of a value. -/
def Value.compact (v : Value) : String := String.ofList (writeCompact v)

end TaskProbe.Json
