import TaskProbe.Config.Settings
import TaskProbe.Files
import TaskProbe.Task.Command

/-!
# The command line

What is given on the command line, and what follows from it: the configuration file, the settings and
the command. Nothing is read from a file before its path satisfies the rule for paths, but for the
submitted document, whose path only has to lead to a file.
-/

namespace TaskProbe

/-- What is given on the command line. -/
structure CommandLine where
  taskId : String := TaskId.default.toString
  submit : Option String := none
  compact : Bool := false
  noCompress : Bool := false
  timeoutSecs : Option Nat := none
  config : Option String := none
  logJson : Bool := false
  verbose : Bool := false
  deriving DecidableEq, Repr

/-! ## Reading files -/

/-- The configuration in a file. -/
def Config.File.ofPath (files : Files) (env : Config.Environment) (path : String) :
    Except ProbeError Config.File :=
  match files.readText path.toList with
  | .error fault => .error (.io fault.message)
  | .ok text => Config.File.ofText env text

/-- The document in a file. -/
def readPayload (files : Files) (path : String) : Except ProbeError Json.Value :=
  match files path.toList with
  | .error fault => .error (.io fault.message)
  | .ok content =>
    (Json.parse content).mapError fun e =>
      .invalidConfig "submit" (path ++ " is not valid JSON: " ++ e.message)

/-- The rule for the path in a field. -/
def checkPath (field path : String) : Except ProbeError Unit :=
  require field path (Rule.path path.toList)

namespace CommandLine

/-- The flags that take precedence over the configuration file. -/
def overrides (c : CommandLine) : Config.Overrides where
  timeoutSeconds := c.timeoutSecs
  noCompress := c.noCompress
  compact := c.compact
  logJson := c.logJson

/-- The rules for what is given. -/
def validate (c : CommandLine) : Except ProbeError Unit := do
  let _ ← TaskId.parse c.taskId.toList
  match c.submit with
  | some path => checkPath "submit" path
  | none => .ok ()
  match c.config with
  | some path => checkPath "config" path
  | none => .ok ()

/-- The configuration file, if one is given; its values must satisfy their rules. -/
def configFile (c : CommandLine) (files : Files) (env : Config.Environment) :
    Except ProbeError (Option Config.File) :=
  match c.config with
  | none => .ok none
  | some path => do
    checkPath "config" path
    let file ← Config.File.ofPath files env path
    file.validate
    .ok (some file)

/-- The settings of the run. -/
def settings (c : CommandLine) (files : Files) (env : Config.Environment) :
    Except ProbeError Config.Settings := do
  let file ← c.configFile files env
  let settings := Config.Settings.resolve file c.overrides
  settings.validate
  .ok settings

/-- The command of the run; the submitted document is read from its file. -/
def command (c : CommandLine) (files : Files) : Except ProbeError Command := do
  let id ← TaskId.parse c.taskId.toList
  match c.submit with
  | none => .ok (.fetch id)
  | some path =>
    let payload ← readPayload files path
    .ok (.submit id payload)

end CommandLine

end TaskProbe
