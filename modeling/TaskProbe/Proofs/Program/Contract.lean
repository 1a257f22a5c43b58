import TaskProbe.Proofs.Program.Stages
import TaskProbe.Proofs.Task.Output
import TaskProbe.Proofs.Task.Rereading
import TaskProbe.Proofs.Task.Submission

/-!
# The contract of a run

What a run does, from its arguments to its exit code: either the input is rejected before anything is
sent or printed, or exactly one call is made and decides the rest (`run_contract`). That one call is
made is said with an interface that keeps a record of its calls (`TaskApi.recorded`). A run whose call
never ends has no exit code, and neither has it printed anything.
-/

namespace TaskProbe

namespace Program

/-! ## Before the call -/

/-- The input of a run is rejected: the settings, the values given or the command. -/
def InputFails (line : CommandLine) (around : Surroundings) : Prop :=
  (∃ e, line.settings around.files around.env = .error e) ∨ (∃ e, line.validate = .error e) ∨
    ∃ e, line.command around.files = .error e

/-- The input of a run is accepted, with what is found in it. -/
structure Accepts (line : CommandLine) (around : Surroundings) (settings : Config.Settings)
    (command : Command) : Prop where
  settings : line.settings around.files around.env = .ok settings
  validate : line.validate = .ok ()
  command : line.command around.files = .ok command

theorem accepts_or_fails (line : CommandLine) (around : Surroundings) :
    (∃ settings command, Accepts line around settings command) ∨ InputFails line around := by
  cases hs : line.settings around.files around.env with
  | error e => exact .inr (.inl ⟨e, hs⟩)
  | ok settings =>
    cases hv : line.validate with
    | error e => exact .inr (.inr (.inl ⟨e, hv⟩))
    | ok _ =>
      cases hc : line.command around.files with
      | error e => exact .inr (.inr (.inr ⟨e, hc⟩))
      | ok command => exact .inl ⟨settings, command, hs, hv, hc⟩

theorem Accepts.not_inputFails {line : CommandLine} {around : Surroundings}
    {settings : Config.Settings} {command : Command} (h : Accepts line around settings command) :
    ¬ InputFails line around := by
  rintro (⟨e, he⟩ | ⟨e, he⟩ | ⟨e, he⟩)
  · cases h.settings.symm.trans he
  · cases h.validate.symm.trans he
  · cases h.command.symm.trans he

section

variable [Url.Idna]

theorem prepare_of_accepts {line : CommandLine} {around : Surroundings}
    {settings : Config.Settings} {command : Command} {client : Client}
    (h : Accepts line around settings command)
    (hc : Client.ofSettings Client.defaultServer settings = .ok client) :
    prepare line settings around = .ok (command, client) := by
  unfold prepare
  rw [h.validate, h.command, hc]
  rfl

theorem prepare_of_fails {line : CommandLine} {around : Surroundings} {settings : Config.Settings}
    (hs : line.settings around.files around.env = .ok settings) (h : InputFails line around) :
    ∃ e : ProbeError, e.IsInput ∧ prepare line settings around = .error e := by
  unfold prepare
  cases hv : line.validate with
  | error e => exact ⟨e, line.validate_fails e hv, rfl⟩
  | ok _ =>
    cases hc : line.command around.files with
    | error e => exact ⟨e, line.command_fails around.files e hc, rfl⟩
    | ok command => exact absurd h (Accepts.not_inputFails ⟨hs, hv, hc⟩)

end

/-! ## Whole runs -/

/-- What a run leaves that ends before its call. -/
structure Rejected (around : Surroundings) (report : Report) : Prop where
  exitCode : report.exitCode = some 3
  out : report.out = around.out
  requests : report.requests = []

section

variable [Url.Idna] [Gzip.Deflater]

/-- What a run leaves that makes the call of a command. -/
structure Called (command : Command) (client : Client) (layout : Json.Layout)
    (around : Surroundings) (report : Report) : Prop where
  /-- The interface is called once, and all requests and all output come from that. -/
  once : ∃ result events,
    command.run (client.api around.server).recorded layout ([], []) around.out
      = ⟨result, events, ([command], report.requests), report.out⟩
  failed : ∀ e, (command.call (client.api around.server) []).result = .error e →
    report.out = around.out ∧
      ((∃ code, report.exitCode = some code ∧ e.CallFails code) ∨ report.exitCode = none)
  answered : ∀ o, (command.call (client.api around.server) []).result = .ok o →
    report.out.written = around.out.written ++ Text.Utf8.encode (o.body.write layout ++ ['\n']) ∧
      report.exitCode = some (if ServerError.ofBody o.body = none then 0 else 1)
  /-- A run only lasts for ever if the server lets a client without any limit of time wait. -/
  unending : report.exitCode = none ↔ client.timeout = none ∧
    Http.FallsSilent around.server Http.maxRedirects [] (client.requestFor command)

theorem runLine_of_course {line : CommandLine} {around : Surroundings} {settings : Config.Settings}
    (hs : line.settings around.files around.env = .ok settings) :
    (runLine line around).exitCode = (ending (course line settings around).result).1 ∧
      (runLine line around).out = (course line settings around).out ∧
      (runLine line around).requests = (course line settings around).requests := by
  unfold runLine
  rw [hs]
  exact ⟨rfl, rfl, rfl⟩

theorem rejected_of_fails {line : CommandLine} {around : Surroundings}
    (h : InputFails line around) : Rejected around (runLine line around) := by
  cases hs : line.settings around.files around.env with
  | error e =>
    have hcode := congrArg some (line.settings_fails around.files around.env e hs).exitCode
    -- not even the log is set up
    unfold runLine
    rw [hs]
    exact ⟨hcode, rfl, rfl⟩
  | ok settings =>
    obtain ⟨hcode, hout, hrequests⟩ := runLine_of_course hs
    obtain ⟨e, he, hp⟩ := prepare_of_fails hs h
    have hcourse : course line settings around = ⟨.error e, [], around.out, []⟩ := by
      unfold course
      rw [hp]
    rw [hcourse] at hcode hout hrequests
    exact ⟨hcode.trans he.ending, hout, hrequests⟩

/-- Input that is rejected is rejected whatever the server is like. -/
theorem runLine_server_of_fails {line : CommandLine} {around : Surroundings}
    (h : InputFails line around) (server : Http.Server) :
    runLine line { around with server := server } = runLine line around := by
  unfold runLine
  cases hs : line.settings around.files around.env with
  | error e => rfl
  | ok settings =>
    obtain ⟨e, _, hp⟩ := prepare_of_fails hs h
    have hcourse (server : Http.Server) :
        course line settings { around with server := server } = ⟨.error e, [], around.out, []⟩ := by
      unfold course
      rw [show prepare line settings { around with server := server } = .error e from hp]
    dsimp only
    rw [hcourse server, hcourse around.server]

theorem called_of_accepts {line : CommandLine} {around : Surroundings} {settings : Config.Settings}
    {command : Command} {client : Client} (h : Accepts line around settings command)
    (hc : Client.ofSettings Client.defaultServer settings = .ok client)
    (hroom : around.out.room = none) (hflush : around.out.canFlush = true) :
    Called command client settings.layout around (runLine line around) := by
  obtain ⟨hcode, hout, hrequests⟩ := runLine_of_course h.settings
  have hcourse : course line settings around = perform command client settings.layout around := by
    unfold course
    rw [prepare_of_accepts h hc]
  rw [hcourse] at hcode hout hrequests
  -- a call that fails prints nothing, and its error ends the run
  have hfailed (e : ProbeError) (he : (command.call (client.api around.server) []).result = .error e) :
      (runLine line around).out = around.out ∧
        (runLine line around).exitCode = (ending (.error e)).1 := by
    obtain ⟨_, hrun⟩ := Command.run_of_error he settings.layout around.out
    unfold perform at hcode hout
    rw [hrun] at hcode hout
    exact ⟨hout, hcode⟩
  -- the body of a call that succeeds is printed before it is looked at
  have hanswered (o : Outcome) (ho : (command.call (client.api around.server) []).result = .ok o) :
      (runLine line around).out.written
          = around.out.written ++ Text.Utf8.encode (o.body.write settings.layout ++ ['\n']) ∧
        (runLine line around).exitCode = some (if ServerError.ofBody o.body = none then 0 else 1) := by
    obtain ⟨_, hrun⟩ := Command.run_of_ok ho settings.layout around.out
    obtain ⟨hprint, hwritten⟩ :=
      Sink.print_of_unlimited hroom hflush (o.body.write settings.layout)
    unfold perform at hcode hout
    rw [hrun] at hcode hout
    rw [hprint] at hcode
    refine ⟨hout ▸ hwritten, hcode.trans ?_⟩
    show (ending (check o)).1 = _
    unfold check
    rw [Command.serverError_of_call ho]
    cases ServerError.ofBody o.body <;> rfl
  refine ⟨?_, ?_, hanswered, ?_⟩
  · rw [Command.run_recorded, hout, hrequests]
    exact ⟨_, _, rfl⟩
  · intro e he
    obtain ⟨hsilent, hend⟩ := hfailed e he
    refine ⟨hsilent, ?_⟩
    rcases Command.call_fails e he with hcall | ⟨url, rfl⟩
    · exact .inl ⟨_, hend.trans hcall.ending, hcall⟩
    · exact .inr hend
  · rw [← Command.call_unending_iff]
    cases hcall : (command.call (client.api around.server) []).result with
    | ok o =>
      rw [(hanswered o hcall).2]
      exact iff_of_false nofun nofun
    | error e =>
      rw [(hfailed e hcall).2]
      rcases Command.call_fails e hcall with hends | ⟨url, rfl⟩
      · rw [hends.ending]
        refine iff_of_false nofun ?_
        rintro ⟨url, hurl⟩
        cases hurl
        exact ProbeError.IsCall.not_unending hends
      · exact iff_of_true rfl ⟨url, rfl⟩

theorem Called.exitCode_ne_three {command : Command} {client : Client} {layout : Json.Layout}
    {around : Surroundings} {report : Report} (h : Called command client layout around report) :
    report.exitCode ≠ some 3 := by
  cases hcall : (command.call (client.api around.server) []).result with
  | error e =>
    rcases (h.failed e hcall).2 with ⟨code, hcode, hfails⟩ | hnone
    · rw [hcode]
      exact fun heq => hfails.ne_three (Option.some.inj heq)
    · rw [hnone]
      nofun
  | ok o =>
    rw [(h.answered o hcall).2]
    split <;> decide

/-- **What a run does, and what its exit code says.** If the input is rejected, nothing is sent, asked
of the server or printed, and the exit code is 3. Otherwise the client is called once, with the
command that the input asks for. If that call fails, nothing is printed, and the exit code is 2 or 1
as the error is one of the exchange or of the response; if it succeeds, its body and a line end are
printed, and the exit code says whether the body reports a failure. So the exit code is 3 exactly if
the input was rejected. There is none if the client waits for ever: its time is not limited, and one of
its requests is left without a reply. -/
theorem run_contract {arguments : List String} {line : CommandLine}
    (hline : CommandLine.parse arguments = .ok line) {around : Surroundings}
    (hroom : around.out.room = none) (hflush : around.out.canFlush = true) :
    ∃ report, run arguments around = .ok report ∧
      (InputFails line around → Rejected around report ∧
        ∀ server, run arguments { around with server := server } = .ok report) ∧
      (¬ InputFails line around → ∃ settings command client,
        Accepts line around settings command ∧ line.Asks around.files command ∧
        Client.ofSettings Client.defaultServer settings = .ok client ∧
        Called command client settings.layout around report) ∧
      (report.exitCode = some 3 ↔ InputFails line around) := by
  have hrun (around : Surroundings) : run arguments around = .ok (runLine line around) := by
    rw [run, hline]
    rfl
  refine ⟨runLine line around, hrun around, ?_, ?_, ?_, ?_⟩
  · intro h
    refine ⟨rejected_of_fails h, fun server => ?_⟩
    rw [hrun, runLine_server_of_fails h]
  · intro h
    obtain ⟨settings, command, haccepts⟩ := (accepts_or_fails line around).resolve_right h
    have hclient := Client.ofSettings_defaultServer settings
    exact ⟨settings, command, _, haccepts, line.asks_of_command _ haccepts.command, hclient,
      called_of_accepts haccepts hclient hroom hflush⟩
  · intro h
    rcases accepts_or_fails line around with ⟨settings, command, haccepts⟩ | hfails
    · have hclient := Client.ofSettings_defaultServer settings
      exact absurd h (called_of_accepts haccepts hclient hroom hflush).exitCode_ne_three
    · exact hfails
  · exact fun h => (rejected_of_fails h).exitCode

end

/-- A file with a document, in an odd spelling, and a server that sends back what it is given. -/
def echoing : Surroundings where
  files path := if path = "document".toList then .ok spelledField else .error .missing
  env := fun _ => none
  server := echo

theorem run_contract_echoing :
    letI := Builtin.asciiNames
    letI := Gzip.Compressor.stored
    ∃ report, run ["--submit", "document", "--compact"] echoing = .ok report ∧
      report.exitCode = some 0 ∧
      report.out.written = Text.Utf8.encode "\x7b\"n\":1\x7d\n".toList := by
  let := Builtin.asciiNames
  let := Gzip.Compressor.stored
  let line : CommandLine := { submit := some "document", compact := true }
  have hparse : Json.parse spelledField = .ok oneField := by
    have h := Json.parse_of_spelling spelling_spelledField (by decide) Json.isGap_nil Json.isGap_nil
    rwa [List.nil_append, List.append_nil] at h
  have haccepts : Accepts line echoing { layout := .compact } (.submit .default oneField) := by
    refine ⟨by rfl, eq_ok_of_toOption (by decide +kernel), ?_⟩
    exact CommandLine.command_of_readPayload rfl (TaskId.parse_of_trim (by decide))
      (readPayload_of_parse (by rfl) hparse)
  have hline : CommandLine.parse ["--submit", "document", "--compact"] = .ok line := by rfl
  have hroom : echoing.out.room = none := rfl
  obtain ⟨report, hrun, -, hcalled, -⟩ := run_contract hline hroom rfl
  obtain ⟨settings, command, client, haccepts', -, hclient, hreport⟩ :=
    hcalled haccepts.not_inputFails
  -- the settings, the command and the client are these
  cases haccepts.settings.symm.trans haccepts'.settings
  cases haccepts.command.symm.trans haccepts'.command
  cases (Client.ofSettings_defaultServer _).symm.trans hclient
  have hread := Json.parse_compact (Json.integral_of_spelling spelling_spelledField)
    ordered_oneField (by decide)
  have hcall (c : Client) (ht : c.timeout ≠ some 0) :
      ((Command.submit .default oneField).call (c.api echo) []).result = .ok ⟨200, oneField, none⟩ := by
    show (c.submit echo .default oneField []).result.map Outcome.ofSubmitted = _
    rw [Client.submit_echo ht [] .default hread]
    rfl
  obtain ⟨hout, hcode⟩ := hreport.answered _ (hcall _ (by decide))
  exact ⟨report, hrun, hcode.trans (by decide +kernel), hout.trans (by decide +kernel)⟩

end Program

end TaskProbe
