import TaskProbe.Error
import TaskProbe.Log.Event
import TaskProbe.Task.Id
import TaskProbe.Task.ServerError

/-!
# Calling the task server

What the server can be asked for and what a call gives. An interface is a pair of functions on some
state, which holds what the interface has to remember from call to call.
-/

namespace TaskProbe

/-- What fetching a task gives. -/
structure Fetched where
  status : Nat
  contentEncoding : Option String
  body : Json.Value
  serverError : Option ServerError

/-- What submitting a document gives. -/
structure Submitted where
  status : Nat
  body : Json.Value

/-- A call: its result, what it notes for the log, and the state it leaves. -/
structure Call (σ α : Type) where
  result : Except ProbeError α
  events : List Log.Event
  state : σ

/-- The same call with its result changed. -/
def Call.map {σ α β : Type} (f : α → β) (c : Call σ α) : Call σ β :=
  { c with result := c.result.map f }

/-- An interface to the task server. -/
structure TaskApi (σ : Type) where
  fetch : TaskId → σ → Call σ Fetched
  submit : TaskId → Json.Value → σ → Call σ Submitted

end TaskProbe
