import TaskProbe.Json.Printer
import TaskProbe.Log.Event

/-!
# Log lines

The two written forms of an event: its level and its text, or a JSON object with both. In the first
form characters that steer a terminal are shown as escapes; ends of lines stay.
-/

namespace TaskProbe.Log

/-- The form of a log. -/
inductive Form where
  | text
  | json
  deriving DecidableEq, Repr

/-- A character of a text line. -/
def showChar (c : Char) : List Char :=
  if c = '\x1b' ∨ c = '\x07' ∨ c = '\x08' ∨ c = '\x0c' ∨ c = '\x7f' then
    ['\\', 'x', Text.digitChar (c.toNat / 16), Text.digitChar (c.toNat % 16)]
  else if 0x80 ≤ c.toNat ∧ c.toNat ≤ 0x9F then
    ['\\', 'u', '\x7b'] ++ Text.digits 16 c.toNat ++ ['\x7d']
  else [c]

/-- An event as text. -/
def Event.textLine (e : Event) : String :=
  e.level.name ++ " " ++ String.ofList (e.message.toList.flatMap showChar)

/-- An event as JSON. -/
def Event.json (e : Event) : Json.Value :=
  .ofFields [("level", .string e.level.name), ("message", .string e.message)]

/-- An event in a form. -/
def Event.line (e : Event) : Form → String
  | .text => e.textLine
  | .json => e.json.compact

end TaskProbe.Log
