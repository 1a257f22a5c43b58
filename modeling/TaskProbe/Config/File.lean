import TaskProbe.Config.Environment
import TaskProbe.Rule
import TaskProbe.Toml.Typed

/-!
# Configuration files

A configuration has three sections, each of which may be missing, and so may each of their fields.
Its text is TOML in which placeholders are first replaced by variables of the environment; a key that
no section knows is an error.
-/

namespace TaskProbe.Config

/-! ## Sections -/

/-- How requests are sent. -/
structure ClientSection where
  timeoutSeconds : Option Nat := none
  compressRequests : Option Bool := none
  deriving DecidableEq, Repr

/-- How answers are printed. -/
structure OutputSection where
  pretty : Option Bool := none
  deriving DecidableEq, Repr

/-- What is logged, and in which form. -/
structure LoggingSection where
  level : Option String := none
  json : Option Bool := none
  deriving DecidableEq, Repr

/-- The content of a configuration file. -/
structure File where
  client : Option ClientSection := none
  output : Option OutputSection := none
  logging : Option LoggingSection := none
  deriving DecidableEq, Repr

/-! ## Shapes -/

/-- The shape of the section on requests. -/
def clientShape : Toml.Shape ClientSection where
  name := "struct ClientSection"
  fields := ["timeout_seconds", "compress_requests"]
  empty := {}
  put content key node :=
    if key = "timeout_seconds" then
      (Toml.uint64 node).map fun n => { content with timeoutSeconds := some n }
    else (Toml.boolean node).map fun b => { content with compressRequests := some b }

/-- The shape of the section on output. -/
def outputShape : Toml.Shape OutputSection where
  name := "struct OutputSection"
  fields := ["pretty"]
  empty := {}
  put content _ node := (Toml.boolean node).map fun b => { content with pretty := some b }

/-- The shape of the section on logging. -/
def loggingShape : Toml.Shape LoggingSection where
  name := "struct LoggingSection"
  fields := ["level", "json"]
  empty := {}
  put content key node :=
    if key = "level" then (Toml.text node).map fun s => { content with level := some s }
    else (Toml.boolean node).map fun b => { content with json := some b }

/-- The shape of a whole configuration. -/
def fileShape : Toml.Shape File where
  name := "struct TomlConfig"
  fields := ["client", "output", "logging"]
  empty := {}
  put content key node :=
    if key = "client" then (clientShape.read node).map fun x => { content with client := some x }
    else if key = "output" then
      (outputShape.read node).map fun x => { content with output := some x }
    else (loggingShape.read node).map fun x => { content with logging := some x }

namespace File

/-- Reads a configuration from its text. -/
def ofText (env : Environment) (s : List Char) : Except ProbeError File :=
  (fileShape.parse (expand env s)).mapError fun e =>
    .invalidConfig "toml_parsing" ("TOML parsing error: " ++ e.message)

/-! ## Single values -/

/-- The time allowed for a request. -/
def timeoutSeconds (f : File) : Option Nat := f.client.bind (·.timeoutSeconds)

/-- Whether submitted documents are compressed. -/
def compressRequests (f : File) : Option Bool := f.client.bind (·.compressRequests)

/-- Whether output is laid out over several lines. -/
def pretty (f : File) : Option Bool := f.output.bind (·.pretty)

/-- Which events are logged. -/
def logLevel (f : File) : Option String := f.logging.bind (·.level)

/-- Whether the log is written as JSON. -/
def logJson (f : File) : Option Bool := f.logging.bind (·.json)

end File

/-! ## Rules -/

/-- The least time that a request can be allowed. -/
def minTimeout : Nat := 1

/-- The greatest time that a request can be allowed. -/
def maxTimeout : Nat := 3600

/-- The rule for the time allowed, if it is given. -/
def checkTimeout (field : String) (timeout : Option Nat) : Except ProbeError Unit :=
  match timeout with
  | some n => require field (ProbeError.natText n) (Rule.range n minTimeout maxTimeout)
  | none => .ok ()

/-- The rules for the values of a configuration. -/
def File.validate (f : File) : Except ProbeError Unit := do
  checkTimeout "client.timeout_seconds" f.timeoutSeconds
  match f.logLevel with
  | some level => require "logging.level" level (Rule.nonBlank level.toList)
  | none => .ok ()

end TaskProbe.Config
