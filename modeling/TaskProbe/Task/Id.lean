import TaskProbe.Json.Typed
import TaskProbe.Rule

/-!
# Task ids

A task is known by one segment of a URL's path. Blanks around an id are dropped when it is read;
`TaskId.parse` is the only way to one, so every id satisfies the rule for segments.
-/

namespace TaskProbe

/-- The id of a task. -/
structure TaskId where
  text : List Char
  valid : Rule.segment text = .ok ()
  deriving DecidableEq

namespace TaskId

/-- Reads an id, without the blanks around it. -/
def parse (raw : List Char) : Except ProbeError TaskId :=
  let text := Text.trim raw
  match h : Rule.segment text with
  | .ok () => .ok ⟨text, h⟩
  | .error breach => .error (.invalidValue "task_id" (String.ofList text) breach.message)

/-- The id that is asked for when none is given. -/
def default : TaskId := ⟨"b9460404-f559-4a93-be01-675045263713".toList, by rfl⟩

/-- The id as a string. -/
def toString (id : TaskId) : String := String.ofList id.text

/-- Why a JSON text is no task id: it is no string, or the string is no id. -/
inductive JsonError where
  | json (error : Json.Error)
  | id (error : ProbeError)
  deriving DecidableEq, Repr

/-- The error in words; an id that breaks its rule has no place in the text. -/
def JsonError.message : JsonError → String
  | .json error => error.message
  | .id error => error.message

/-- Reads an id from a JSON string. The rule for ids is applied before anything after the string is
looked at. -/
def ofJson (text : List UInt8) : Except JsonError TaskId :=
  match Json.Typed.string text with
  | .error f => .error (.json (f.locate text))
  | .ok (s, rest) =>
    match parse s with
    | .error e => .error (.id e)
    | .ok id =>
      match Json.atEnd rest.1 with
      | .error f => .error (.json (f.locate text))
      | .ok () => .ok id

/-- The JSON string of an id. -/
def toJson (id : TaskId) : Json.Value := .string id.toString

end TaskId

end TaskProbe
