import TaskProbe.Json.Parser
import TaskProbe.Task.Id

/-!
# Commands

What a run is to do with its task: fetch it, or submit a document to it.
-/

namespace TaskProbe

/-- What to do with a task. -/
inductive Command where
  | fetch (id : TaskId)
  | submit (id : TaskId) (payload : Json.Value)

/-- The task that a command is about. -/
def Command.taskId : Command → TaskId
  | .fetch id => id
  | .submit id _ => id

end TaskProbe
