import TaskProbe.Task.Api
import TaskProbe.Task.Command

/-!
# Running a command

One call of the task server, and the body of its reply printed as one line or several. A reply that
reports a failure of the task is printed like any other; a call that fails prints nothing.
-/

namespace TaskProbe

/-! ## Output -/

/-- Where output goes: the bytes written so far, how many more fit if there is a limit, whether
flushing works, and how often it was asked for. -/
structure Sink where
  written : List UInt8 := []
  room : Option Nat := none
  canFlush : Bool := true
  flushes : Nat := 0
  deriving DecidableEq, Repr

namespace Sink

/-- Writes what fits; it is an error if that is not all. -/
def write (out : Sink) (data : List UInt8) : Except ProbeError Unit × Sink :=
  match out.room with
  | none => (.ok (), { out with written := out.written ++ data })
  | some n =>
    let out := { out with written := out.written ++ data.take n, room := some (n - data.length) }
    (if data.length ≤ n then .ok () else .error (.io "sink full"), out)

/-- Asks for what is written to be passed on. -/
def flush (out : Sink) : Except ProbeError Unit × Sink :=
  (if out.canFlush then .ok () else .error (.io "flush failed"),
    { out with flushes := out.flushes + 1 })

/-- Writes a line and flushes, which is only tried when the whole line is written. -/
def print (out : Sink) (text : List Char) : Except ProbeError Unit × Sink :=
  match out.write (Text.Utf8.encode (text ++ ['\n'])) with
  | (.error e, out) => (.error e, out)
  | (.ok (), out) => out.flush

end Sink

/-! ## Outcomes -/

/-- What a command comes to. -/
structure Outcome where
  status : Nat
  body : Json.Value
  serverError : Option ServerError

/-- The outcome of fetching. -/
def Outcome.ofFetched (r : Fetched) : Outcome := ⟨r.status, r.body, r.serverError⟩

/-- The outcome of submitting; the failure is found in the reply. -/
def Outcome.ofSubmitted (r : Submitted) : Outcome := ⟨r.status, r.body, ServerError.ofBody r.body⟩

/-- Makes the call of a command. -/
def Command.call {σ : Type} (api : TaskApi σ) (command : Command) (s : σ) : Call σ Outcome :=
  match command with
  | .fetch id => (api.fetch id s).map Outcome.ofFetched
  | .submit id payload =>
    let c := api.submit id payload s
    let noted :=
      match c.result with
      | .ok r => ServerError.events r.body
      | .error _ => []
    { c.map Outcome.ofSubmitted with events := c.events ++ noted }

/-- What a command notes before its call. -/
def Command.announcement : Command → Log.Event
  | .fetch id => ⟨.info, .probe, "🔍 Fetching task " ++ id.toString⟩
  | .submit id _ => ⟨.info, .probe, "📤 Submitting task " ++ id.toString⟩

/-- What running a command gives: its result, what it notes, the state of the interface, and the
output after it. -/
structure Step (σ : Type) where
  result : Except ProbeError Outcome
  events : List Log.Event
  state : σ
  out : Sink

/-- Runs a command: one call, and its body printed in the given layout. -/
def Command.run {σ : Type} (api : TaskApi σ) (layout : Json.Layout) (command : Command) (s : σ)
    (out : Sink) : Step σ :=
  let c := command.call api s
  let events := command.announcement :: c.events
  match c.result with
  | .error e => ⟨.error e, events, c.state, out⟩
  | .ok outcome =>
    let text := outcome.body.write layout
    match out.print text with
    | (.error e, out) => ⟨.error e, events, c.state, out⟩
    | (.ok (), out) =>
      ⟨.ok outcome,
        events ++ [⟨.debug, .probe, "Printed "
          ++ ProbeError.natText (Text.Utf8.encode text).length ++ " bytes of JSON (HTTP "
          ++ ProbeError.natText outcome.status ++ ")"⟩],
        c.state, out⟩

end TaskProbe
