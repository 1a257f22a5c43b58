import TaskProbe.CommandLine.Arguments
import TaskProbe.Log.Filter
import TaskProbe.Log.Line
import TaskProbe.Task.Client
import TaskProbe.Task.Probe

/-!
# The program

A whole run: the arguments are read, the settings found, the input checked, the call made and its
outcome printed. Everything that the run depends on is an argument of `run`. Whatever is wrong with
the input is found before the call.
-/

namespace TaskProbe.Program

/-- What a run depends on besides its arguments. -/
structure Surroundings where
  files : Files
  env : Config.Environment
  server : Http.Server
  out : Sink := {}

/-- A line for the person at the terminal, apart from the output. -/
inductive Note where
  | logged (event : Log.Event)
  | line (text : String)
  deriving DecidableEq, Repr

/-- What a run leaves behind: its exit code, unless it never ends, its output, the notes in the form of
the log, and the requests that were sent. -/
structure Report where
  exitCode : Option Nat
  out : Sink
  notes : List Note
  form : Log.Form
  requests : List Http.Request

/-! ## Failures -/

/-- What the person at the terminal is told about an error. -/
def advice (e : ProbeError) : List Note :=
  [.line ("❌ " ++ e.friendly), .line ("💡 " ++ e.suggestion)]

/-- What the log holds about an error that ends a run. -/
def errorEvents (e : ProbeError) : List Log.Event :=
  if e.isUnending then []
  else
    [⟨.error, .program, "❌ Task request failed: " ++ e.message ++ " (Category: " ++ e.category.name
        ++ ", Severity: " ++ e.severity.name ++ ")"⟩,
      ⟨.error, .program, "💡 Recovery suggestion: " ++ e.suggestion⟩]

/-! ## The run -/

/-- What happens in a run once its settings are known: the result, the events, and what is left of
output and requests. -/
structure Course where
  result : Except ProbeError Outcome
  events : List Log.Event
  out : Sink
  requests : List Http.Request

section

variable [Url.Idna]

/-- Checks what is given and finds the command and the client. -/
def prepare (line : CommandLine) (settings : Config.Settings) (around : Surroundings) :
    Except ProbeError (Command × Client) := do
  line.validate
  let command ← line.command around.files
  let client ← Client.ofSettings Client.defaultServer settings
  .ok (command, client)

/-- The failure that an outcome reports, as an error. -/
def check (o : Outcome) : Except ProbeError Outcome :=
  match o.serverError with
  | some e => .error (.serverReported e.errno e.message)
  | none => .ok o

variable [Gzip.Deflater]

/-- Makes the call of a prepared command. -/
def perform (command : Command) (client : Client) (layout : Json.Layout) (around : Surroundings) :
    Course :=
  let step := command.run (client.api around.server) layout [] around.out
  let result := step.result.bind check
  let success : List Log.Event :=
    match result with
    | .error _ => []
    | .ok o =>
      [⟨.info, .program, "✅ Task " ++ command.taskId.toString ++ " answered with HTTP "
        ++ ProbeError.natText o.status⟩]
  ⟨result, step.events ++ success, step.out, step.state⟩

/-- What happens once the settings are known. -/
def course (line : CommandLine) (settings : Config.Settings) (around : Surroundings) : Course :=
  match prepare line settings around with
  | .error e => ⟨.error e, [], around.out, []⟩
  | .ok (command, client) => perform command client settings.layout around

/-- The form of the log. -/
def formOf (settings : Config.Settings) : Log.Form := if settings.logJson then .json else .text

/-- The events of a course with those around it. -/
def eventsOf (c : Course) : List Log.Event :=
  ⟨.debug, .program, "CLI config:"⟩ :: ⟨.debug, .program, "Resolved settings:"⟩ :: c.events
    ++ match c.result with
      | .ok _ => []
      | .error e => errorEvents e

/-- What a run ends with: an exit code and the last lines. A run that never ends has neither. -/
def ending (result : Except ProbeError Outcome) : Option Nat × List Note :=
  match result with
  | .ok _ => (some 0, [])
  | .error e => if e.isUnending then (none, []) else (some e.exitCode, advice e)

/-- Runs what a command line asks for. -/
def runLine (line : CommandLine) (around : Surroundings) : Report :=
  match line.settings around.files around.env with
  | .error e => ⟨some e.exitCode, around.out, advice e, .text, []⟩
  | .ok settings =>
    let (filter, complaints) :=
      Log.filterOf (around.env Log.filterVariable)
        (Log.chosenFilter line.verbose settings.logLevel)
    let c := course line settings around
    let shown := (eventsOf c).filter filter.shows
    let (exitCode, last) := ending c.result
    ⟨exitCode, c.out, complaints.map Note.line ++ shown.map Note.logged ++ last, formOf settings,
      c.requests⟩

/-- Runs the program with its arguments, or says what is wrong with them. -/
def run (arguments : List String) (around : Surroundings) :
    Except CommandLine.UsageFault Report :=
  (CommandLine.parse arguments).map (runLine · around)

end

end TaskProbe.Program
