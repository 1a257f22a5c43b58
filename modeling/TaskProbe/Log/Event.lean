/-!
# Events

What a run notes for its log: how important it is, which part of the program it comes from, and a
text. Which events are shown is decided by a filter, and only when the log is written.
-/

namespace TaskProbe.Log

/-- How important an event is. -/
inductive Level where
  | trace
  | debug
  | info
  | warn
  | error
  deriving DecidableEq, Repr

/-- The name of a level. -/
def Level.name : Level → String
  | .trace => "TRACE"
  | .debug => "DEBUG"
  | .info => "INFO"
  | .warn => "WARN"
  | .error => "ERROR"

/-- The rank of a level; more important events have a greater one. -/
def Level.rank : Level → Nat
  | .trace => 0
  | .debug => 1
  | .info => 2
  | .warn => 3
  | .error => 4

/-- The part of the program that an event comes from. -/
inductive Source where
  | program
  | client
  | probe
  | reply
  | coding
  deriving DecidableEq, Repr

/-- The name that filters know a part by. -/
def Source.name : Source → String
  | .program => "fc_task_client"
  | .client => "fc_task_client::core::client"
  | .probe => "fc_task_client::core::probe"
  | .reply => "fc_task_client::domain::model"
  | .coding => "fc_task_client::utils::codec"

/-- Something that a run notes. -/
structure Event where
  level : Level
  source : Source
  message : String
  deriving DecidableEq, Repr

end TaskProbe.Log
