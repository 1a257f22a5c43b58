import TaskProbe.Program
import TaskProbe.Proofs.Outcomes
import TaskProbe.Proofs.Task.Call

/-!
# Errors of the stages

What can go wrong at which stage of a run. Everything before the call fails with an error about the
input (`IsInput`), which leads to the exit code 3; a call that ends fails with an error about the
exchange or the response (`CallFails`), which leads to 2 or 1. So the exit code tells the stages apart.
A run has none exactly if its call never ends (`Command.call_unending_iff`).
-/

namespace TaskProbe

/-! ## Kinds of errors -/

/-- An error about the input: a file, a value, or what a file holds. -/
inductive ProbeError.IsInput : ProbeError → Prop where
  | io (message : String) : IsInput (.io message)
  | value (field value reason : String) : IsInput (.invalidValue field value reason)
  | content (field message : String) : IsInput (.invalidConfig field message)

open ProbeError

theorem ProbeError.IsInput.exitCode {e : ProbeError} (h : e.IsInput) : e.exitCode = 3 := by
  cases h <;> rfl

theorem ProbeError.IsInput.ending {e : ProbeError} (h : e.IsInput) :
    (Program.ending (.error e)).1 = some 3 := by
  cases h <;> rfl

theorem ProbeError.CallFails.ending {e : ProbeError} {code : Nat} (h : e.CallFails code) :
    (Program.ending (.error e)).1 = some code := by
  cases h with
  | @transport fault h =>
    cases fault with
    | unending url => exact absurd rfl (h url)
    | _ => rfl
  | httpStatus => rfl
  | decode => rfl

/-! ## The stages before the call -/

theorem require_fails {α : Type} (field value : String) (outcome : Except Breach α) :
    FailsWith IsInput (require field value outcome) :=
  .mapError (fun _ => .value ..) _

theorem checkPath_fails (field path : String) : FailsWith IsInput (checkPath field path) :=
  require_fails _ _ _

theorem TaskId.parse_fails (raw : List Char) : FailsWith IsInput (TaskId.parse raw) := by
  unfold TaskId.parse
  dsimp only
  split
  · exact .ok _
  · exact .error (.value ..)

theorem Config.checkTimeout_fails (field : String) (timeout : Option Nat) :
    FailsWith IsInput (checkTimeout field timeout) := by
  unfold checkTimeout
  split
  · exact require_fails _ _ _
  · exact .ok ()

theorem Config.File.validate_fails (f : File) : FailsWith IsInput f.validate := by
  unfold validate
  refine .bind (checkTimeout_fails _ _) fun _ => ?_
  split
  · exact require_fails _ _ _
  · exact .ok ()

theorem Config.File.ofPath_fails (files : Files) (env : Environment) (path : String) :
    FailsWith IsInput (ofPath files env path) := by
  unfold ofPath
  split
  · exact .error (.io _)
  · exact .mapError (fun _ => .content ..) _

theorem readPayload_fails (files : Files) (path : String) :
    FailsWith IsInput (readPayload files path) := by
  unfold readPayload
  split
  · exact .error (.io _)
  · exact .mapError (fun _ => .content ..) _

namespace CommandLine

variable (line : CommandLine) (files : Files) (env : Config.Environment)

theorem configFile_fails : FailsWith IsInput (line.configFile files env) := by
  unfold configFile
  split
  · exact .ok none
  · exact .bind (checkPath_fails _ _) fun _ => .bind (Config.File.ofPath_fails _ _ _) fun file =>
      .bind file.validate_fails fun _ => .ok _

theorem settings_fails : FailsWith IsInput (line.settings files env) :=
  .bind (line.configFile_fails files env) fun _ =>
    .bind (Config.checkTimeout_fails _ _) fun _ => .ok _

theorem validate_fails : FailsWith IsInput line.validate := by
  unfold validate
  refine .bind (TaskId.parse_fails _) fun _ => ?_
  cases line.submit with
  | none =>
    cases line.config with
    | none => exact .bind (.ok ()) fun _ => .ok ()
    | some path => exact .bind (.ok ()) fun _ => checkPath_fails _ _
  | some path =>
    refine .bind (checkPath_fails _ _) fun _ => ?_
    cases line.config with
    | none => exact .ok ()
    | some path => exact checkPath_fails _ _

theorem command_fails : FailsWith IsInput (line.command files) := by
  unfold command
  refine .bind (TaskId.parse_fails _) fun _ => ?_
  split
  · exact .ok _
  · exact .bind (readPayload_fails _ _) fun _ => .ok _

/-- Which command follows from a command line: its id is the one given, and a document that is to be
submitted is the one in its file. -/
inductive Asks : Command → Prop where
  | fetch {id : TaskId} (hs : line.submit = none) (hid : TaskId.parse line.taskId.toList = .ok id) :
      Asks (.fetch id)
  | submit {id : TaskId} {path : String} {payload : Json.Value} (hs : line.submit = some path)
      (hid : TaskId.parse line.taskId.toList = .ok id)
      (hp : readPayload files path = .ok payload) : Asks (.submit id payload)

theorem asks_of_command {command : Command} (h : line.command files = .ok command) :
    line.Asks files command := by
  unfold CommandLine.command at h
  cases hid : TaskId.parse line.taskId.toList with
  | error e => rw [hid] at h; cases h
  | ok id =>
    rw [hid] at h
    cases hs : line.submit with
    | none => rw [hs] at h; cases h; exact .fetch hs hid
    | some path =>
      rw [hs] at h
      cases hp : readPayload files path with
      | error e => simp only [hp] at h; cases h
      | ok payload => simp only [hp] at h; cases h; exact .submit hs hid hp

end CommandLine

/-! ## The call -/

section

variable [Url.Idna] [Gzip.Deflater] {c : Client} {server : Http.Server} {seen : List Http.Request}
  {command : Command}

/-- A call that fails ends with an error of its own kind, or it never ends. -/
theorem Command.call_fails : FailsWith (fun e => e.IsCall ∨ ∃ url, e = .transport (.unending url))
    (command.call (c.api server) seen).result := by
  rw [call_result]
  exact Http.Exchange.reading_fails _ command.outcome_fails

theorem Command.call_unending_iff :
    (∃ url, (command.call (c.api server) seen).result = .error (.transport (.unending url))) ↔
      c.timeout = none ∧ Http.FallsSilent server Http.maxRedirects seen (c.requestFor command) := by
  rw [call_result, Http.Exchange.reading_unending_iff command.outcome_fails,
    Client.exchange_unending_iff]

/-- A call that succeeds reports the failure that its body speaks of. -/
theorem Command.serverError_of_call {o : Outcome}
    (h : (command.call (c.api server) seen).result = .ok o) :
    o.serverError = ServerError.ofBody o.body := by
  obtain ⟨received, h⟩ := received_of_call c server seen h
  cases command with
  | fetch id =>
    cases hf : Fetched.ofReceived received with
    | error e => rw [hf] at h; cases h
    | ok f =>
      rw [hf] at h
      cases h
      exact (Fetched.parse_of_ofReceived hf).2
  | submit id payload =>
    cases h
    rfl

end

end TaskProbe
