import TaskProbe.Proofs.Config.Placeholders
import TaskProbe.Proofs.Config.Layers
import TaskProbe.Proofs.Program.Contract
import TaskProbe.Proofs.Task.Resubmission

/-!
# Presentation

How a run keeps its log and lays out its output has no part in what it does
(`presentation_is_inert`). Two runs that differ in nothing else are followed side by side: their
configurations say the same about requests, so they find the same command and the same client, and
make the same call. A layout comes in only after that, and either layout of a body is read as the body
again.
-/

namespace TaskProbe

/-! ## Settings -/

/-- A configuration depends on its file and on the variables that are named there. -/
theorem Config.File.ofPath_congr {files files' : Files} {env env' : Environment} {path : String}
    (hfiles : files' path.toList = files path.toList)
    (henv : ∀ text, files.readText path.toList = .ok text →
      ∀ name, Mentions name text → env' name = env name) :
    ofPath files' env' path = ofPath files env path := by
  have htext : files'.readText path.toList = files.readText path.toList := by
    rw [Files.readText, Files.readText, hfiles]
  unfold ofPath
  rw [htext]
  cases h : files.readText path.toList with
  | error fault => rfl
  | ok text => exact ofText_congr (henv text h)

namespace Program

/-! ## Runs that differ in presentation -/

/-- The configurations of two runs, as far as both are accepted, have the same value. -/
def SameValue {α : Type} (read : Config.File → Option α) (line line' : CommandLine)
    (around around' : Surroundings) : Prop :=
  ∀ file file', line.configFile around.files around.env = .ok file →
    line'.configFile around'.files around'.env = .ok file' → file'.bind read = file.bind read

/-- The layout is the same if nothing that has a part in it differs. -/
theorem SameValue.layout_eq {line line' : CommandLine} {around around' : Surroundings}
    (hpretty : SameValue Config.File.pretty line line' around around')
    (hcompact : line'.compact = line.compact) {settings settings' : Config.Settings}
    (hs : line.settings around.files around.env = .ok settings)
    (hs' : line'.settings around'.files around'.env = .ok settings') :
    settings'.layout = settings.layout := by
  obtain ⟨file, hfile, rfl, -⟩ := CommandLine.configFile_of_settings hs
  obtain ⟨file', hfile', rfl, -⟩ := CommandLine.configFile_of_settings hs'
  show (if line'.compact then Json.Layout.compact
    else ((file'.bind Config.File.pretty).map Config.Settings.layoutOf).getD
      Config.Settings.default.layout) = _
  rw [hcompact, hpretty file file' hfile hfile']
  rfl

/-- Two runs differ in nothing but presentation: in whether output is compact, how much is logged and
in which form, in the variable that chooses what is logged, and in what their configurations say about
output and the log. -/
structure DifferInPresentation (line line' : CommandLine) (around around' : Surroundings) : Prop where
  taskId : line'.taskId = line.taskId
  submit : line'.submit = line.submit
  noCompress : line'.noCompress = line.noCompress
  timeoutSecs : line'.timeoutSecs = line.timeoutSecs
  config : line'.config = line.config
  server : around'.server = around.server
  out : around'.out = around.out
  document : ∀ path ∈ line.submit, around'.files path.toList = around.files path.toList
  env : ∀ name, name ≠ Log.filterVariable → around'.env name = around.env name
  /-- If the variable for the log differs, neither configuration names it. -/
  unnamed : ∀ path ∈ line.config,
    around'.env Log.filterVariable = around.env Log.filterVariable ∨
      ∀ text, around.files.readText path.toList = .ok text ∨
        around'.files.readText path.toList = .ok text → ¬ Config.Mentions Log.filterVariable text
  /-- If the file of the configuration differs, both runs accept their settings. -/
  accepted : (∀ path ∈ line.config, around'.files path.toList = around.files path.toList) ∨
    (∃ settings, line.settings around.files around.env = .ok settings) ∧
      ∃ settings, line'.settings around'.files around'.env = .ok settings
  timeoutSeconds : SameValue Config.File.timeoutSeconds line line' around around'
  compressRequests : SameValue Config.File.compressRequests line line' around around'

/-- The call of a run is answered with a body. -/
def Answered [Url.Idna] [Gzip.Deflater] (line : CommandLine) (around : Surroundings) (body : Json.Value) : Prop :=
  ∃ settings command client o, Accepts line around settings command ∧
    Client.ofSettings Client.defaultServer settings = .ok client ∧
    (command.call (client.api around.server) []).result = .ok o ∧ o.body = body

namespace DifferInPresentation

variable {line line' : CommandLine} {around around' : Surroundings}
  (h : DifferInPresentation line line' around around')

include h

/-- Which run comes first makes no difference. -/
theorem symm : DifferInPresentation line' line around' around where
  taskId := h.taskId.symm
  submit := h.submit.symm
  noCompress := h.noCompress.symm
  timeoutSecs := h.timeoutSecs.symm
  config := h.config.symm
  server := h.server.symm
  out := h.out.symm
  document path hpath := (h.document path (h.submit ▸ hpath)).symm
  env name hname := (h.env name hname).symm
  unnamed path hpath := by
    rcases h.unnamed path (h.config ▸ hpath) with heq | hnot
    · exact .inl heq.symm
    · exact .inr fun text htext => hnot text htext.symm
  accepted := by
    rcases h.accepted with hfiles | ⟨hs, hs'⟩
    · exact .inl fun path hpath => (hfiles path (h.config ▸ hpath)).symm
    · exact .inr ⟨hs', hs⟩
  timeoutSeconds file file' hfile hfile' := (h.timeoutSeconds file' file hfile' hfile).symm
  compressRequests file file' hfile hfile' := (h.compressRequests file' file hfile' hfile).symm

/-! ## Before the call -/

/-- One file gives one configuration. -/
theorem configFile_eq
    (hfiles : ∀ path ∈ line.config, around'.files path.toList = around.files path.toList) :
    line'.configFile around'.files around'.env = line.configFile around.files around.env := by
  unfold CommandLine.configFile
  rw [h.config]
  cases hpath : line.config with
  | none => rfl
  | some path =>
    have hfile : Config.File.ofPath around'.files around'.env path
        = Config.File.ofPath around.files around.env path := by
      refine Config.File.ofPath_congr (hfiles path hpath) fun text htext name hname => ?_
      by_cases hlog : name = Log.filterVariable
      · subst hlog
        exact (h.unnamed path hpath).resolve_right fun hnot => hnot text (.inl htext) hname
      · exact h.env name hlog
    dsimp only
    rw [hfile]

/-- The settings agree in what requests depend on, whatever configurations they come from. -/
theorem resolve_eq {file file' : Option Config.File}
    (hfile : line.configFile around.files around.env = .ok file)
    (hfile' : line'.configFile around'.files around'.env = .ok file') :
    (Config.Settings.resolve file' line'.overrides).timeoutSeconds
        = (Config.Settings.resolve file line.overrides).timeoutSeconds ∧
      (Config.Settings.resolve file' line'.overrides).compressRequests
        = (Config.Settings.resolve file line.overrides).compressRequests := by
  have htimeout := h.timeoutSeconds file file' hfile hfile'
  have hcompress := h.compressRequests file file' hfile hfile'
  constructor
  · show (line'.timeoutSecs <|> file'.bind Config.File.timeoutSeconds) = _
    rw [h.timeoutSecs, htimeout]
    rfl
  · show (if line'.noCompress then false
      else (file'.bind Config.File.compressRequests).getD Config.Settings.default.compressRequests) = _
    rw [h.noCompress, hcompress]
    rfl

theorem settings_agree {settings settings' : Config.Settings}
    (hs : line.settings around.files around.env = .ok settings)
    (hs' : line'.settings around'.files around'.env = .ok settings') :
    settings'.timeoutSeconds = settings.timeoutSeconds ∧
      settings'.compressRequests = settings.compressRequests := by
  obtain ⟨file, hfile, rfl, -⟩ := CommandLine.configFile_of_settings hs
  obtain ⟨file', hfile', rfl, -⟩ := CommandLine.configFile_of_settings hs'
  exact h.resolve_eq hfile hfile'

/-- Settings are accepted in both runs or in neither. -/
theorem settings_accepted {settings : Config.Settings}
    (hs : line.settings around.files around.env = .ok settings) :
    ∃ settings', line'.settings around'.files around'.env = .ok settings' := by
  rcases h.accepted with hfiles | ⟨-, hs'⟩
  · obtain ⟨file, hfile, rfl, hvalid⟩ := CommandLine.configFile_of_settings hs
    have hfile' := (h.configFile_eq hfiles).trans hfile
    refine ⟨_, CommandLine.settings_of_configFile hfile' ?_⟩
    -- the rule for settings looks at nothing but the time allowed
    rw [Config.Settings.validate, (h.resolve_eq hfile hfile').1]
    exact hvalid
  · exact hs'

theorem validate_eq : line'.validate = line.validate := by
  rw [CommandLine.validate, CommandLine.validate, h.taskId, h.submit, h.config]

theorem command_eq : line'.command around'.files = line.command around.files := by
  unfold CommandLine.command
  rw [h.taskId, h.submit]
  cases hpath : line.submit with
  | none => rfl
  | some path =>
    have hpayload : readPayload around'.files path = readPayload around.files path := by
      rw [readPayload, readPayload, h.document path hpath]
    dsimp only
    rw [hpayload]

/-- Input that one run accepts is accepted by the other, and leads to the same command. -/
theorem accepts {settings : Config.Settings} {command : Command}
    (ha : Accepts line around settings command) :
    ∃ settings', Accepts line' around' settings' command := by
  obtain ⟨settings', hs'⟩ := h.settings_accepted ha.settings
  exact ⟨settings', hs', h.validate_eq.trans ha.validate, h.command_eq.trans ha.command⟩

theorem inputFails (hf : InputFails line around) : InputFails line' around' := by
  refine (accepts_or_fails line' around').resolve_left ?_
  rintro ⟨settings, command, ha⟩
  obtain ⟨_, ha'⟩ := h.symm.accepts ha
  exact ha'.not_inputFails hf

/-- The client is the same one. -/
theorem client_eq [Url.Idna] {settings settings' : Config.Settings}
    (hs : line.settings around.files around.env = .ok settings)
    (hs' : line'.settings around'.files around'.env = .ok settings') :
    Client.ofSettings Client.defaultServer settings'
      = Client.ofSettings Client.defaultServer settings := by
  obtain ⟨htimeout, hcompress⟩ := h.settings_agree hs hs'
  rw [Client.ofSettings, Client.ofSettings, htimeout, hcompress]

end DifferInPresentation

/-! ## The call -/

section Called

variable [Url.Idna] [Gzip.Deflater] {command : Command} {client : Client}
  {layout layout' : Json.Layout} {around around' : Surroundings} {report report' : Report}

theorem Called.requests_eq (h : Called command client layout around report) :
    report.requests = (command.call (client.api around.server) []).state := by
  obtain ⟨result, events, honce⟩ := h.once
  rw [Command.run_recorded, Step.mk.injEq] at honce
  rw [← Command.run_state layout around.out]
  exact (congrArg Prod.snd honce.2.2.1).symm

theorem Called.out_eq (h : Called command client layout around report) :
    report.out = (command.run (client.api around.server) layout [] around.out).out := by
  obtain ⟨result, events, honce⟩ := h.once
  rw [Command.run_recorded, Step.mk.injEq] at honce
  exact honce.2.2.2.symm

/-- The exit code of a run says what its call came to, and nothing of the layout. -/
theorem Called.exitCode_eq (h : Called command client layout around report)
    (h' : Called command client layout' around' report') (hserver : around'.server = around.server) :
    report'.exitCode = report.exitCode := by
  cases hcall : (command.call (client.api around.server) []).result with
  | error e =>
    -- the client is the same, so either none of the two runs ends or both
    have hunending : report'.exitCode = none ↔ report.exitCode = none := by
      rw [h'.unending, h.unending, hserver]
    rcases (h.failed e hcall).2 with ⟨code, hcode, hfails⟩ | hnone
    · rcases (h'.failed e (hserver ▸ hcall)).2 with ⟨code', hcode', hfails'⟩ | hnone'
      · rw [hcode, hcode', hfails.unique hfails']
      · exact hnone'.trans (hunending.mp hnone').symm
    · exact (hunending.mpr hnone).trans hnone.symm
  | ok o =>
    have hcode := (h.answered o hcall).2
    have hcode' := (h'.answered o (hserver ▸ hcall)).2
    exact hcode'.trans hcode.symm

/-- What a run has written is empty exactly if its call failed. -/
theorem Called.written_eq_nil_iff (h : Called command client layout around report)
    (hempty : around.out.written = []) :
    report.out.written = [] ↔
      ∃ e, (command.call (client.api around.server) []).result = .error e := by
  cases hcall : (command.call (client.api around.server) []).result with
  | error e => exact iff_of_true ((h.failed e hcall).1 ▸ hempty) ⟨e, rfl⟩
  | ok o =>
    refine iff_of_false ?_ (by rintro ⟨e, he⟩; cases he)
    rw [(h.answered o hcall).1, hempty, List.nil_append]
    exact o.body.printed_ne_nil layout

/-- What a run has written is read as the body that its call was answered with. -/
theorem Called.parse_written (h : Called command client layout around report)
    (hempty : around.out.written = []) {o : Outcome}
    (hcall : (command.call (client.api around.server) []).result = .ok o) (hi : o.body.Integral) :
    Json.parse report.out.written = .ok o.body := by
  obtain ⟨hd, ho⟩ := Command.wellFormed_of_call hcall
  rw [(h.answered o hcall).1, hempty, List.nil_append]
  exact Json.parse_printed hi ho hd layout

end Called

/-- **Presentation is inert.** Two runs that differ in nothing but how they log and lay out send the
same requests and end with the same exit code, and either both print something or neither. If nothing
differs that the layout depends on, they print the same bytes; and whatever is printed, if the numbers
of the body that came are integers of 64 bits, both runs printed a text of that body. -/
theorem presentation_is_inert [Url.Idna] [Gzip.Deflater] {arguments arguments' : List String}
    {line line' : CommandLine} (hline : CommandLine.parse arguments = .ok line)
    (hline' : CommandLine.parse arguments' = .ok line') {around around' : Surroundings}
    (h : DifferInPresentation line line' around around') (hroom : around.out.room = none)
    (hflush : around.out.canFlush = true) (hempty : around.out.written = []) :
    ∃ report report', run arguments around = .ok report ∧ run arguments' around' = .ok report' ∧
      report'.requests = report.requests ∧ report'.exitCode = report.exitCode ∧
      (report'.out.written = [] ↔ report.out.written = []) ∧
      (line'.compact = line.compact → SameValue Config.File.pretty line line' around around' →
        report'.out.written = report.out.written) ∧
      (report.out.written ≠ [] → ∃ body, Answered line around body ∧ (body.Integral →
        Json.parse report.out.written = .ok body ∧
        Json.parse report'.out.written = .ok body)) := by
  refine ⟨runLine line around, runLine line' around', ?_, ?_, ?_⟩
  · rw [run, hline]
    rfl
  · rw [run, hline']
    rfl
  rcases accepts_or_fails line around with ⟨settings, command, ha⟩ | hfails
  · -- both runs make the same call
    obtain ⟨settings', ha'⟩ := h.accepts ha
    obtain ⟨client, hclient⟩ : ∃ client,
        Client.ofSettings Client.defaultServer settings = .ok client :=
      ⟨_, Client.ofSettings_defaultServer settings⟩
    have hclient' := (h.client_eq ha.settings ha'.settings).trans hclient
    have hcalled := called_of_accepts ha hclient hroom hflush
    have hcalled' := called_of_accepts ha' hclient' (h.out ▸ hroom) (h.out ▸ hflush)
    have hempty' : around'.out.written = [] := h.out ▸ hempty
    refine ⟨?_, hcalled.exitCode_eq hcalled' h.server, ?_, fun hcompact hpretty => ?_, fun hne => ?_⟩
    · rw [hcalled.requests_eq, hcalled'.requests_eq, h.server]
    · rw [hcalled.written_eq_nil_iff hempty, hcalled'.written_eq_nil_iff hempty', h.server]
    · rw [hcalled.out_eq, hcalled'.out_eq, hpretty.layout_eq hcompact ha.settings ha'.settings,
        h.server, h.out]
    · cases hcall : (command.call (client.api around.server) []).result with
      | error e => exact absurd ((hcalled.written_eq_nil_iff hempty).mpr ⟨e, hcall⟩) hne
      | ok o =>
        refine ⟨o.body, ⟨settings, command, client, o, ha, hclient, hcall, rfl⟩, fun hi => ?_⟩
        exact ⟨hcalled.parse_written hempty hcall hi,
          hcalled'.parse_written hempty' (h.server ▸ hcall) hi⟩
  · -- neither run gets as far as a call
    have hrejected := rejected_of_fails hfails
    have hrejected' := rejected_of_fails (h.inputFails hfails)
    have hout : (runLine line' around').out = (runLine line around).out := by
      rw [hrejected'.out, hrejected.out, h.out]
    refine ⟨hrejected'.requests.trans hrejected.requests.symm,
      hrejected'.exitCode.trans hrejected.exitCode.symm, by rw [hout], fun _ _ => by rw [hout],
      fun hne => ?_⟩
    rw [hrejected.out] at hne
    exact absurd hempty hne

/-- A server with a list of one number for everyone. -/
def lone : Http.Response := { status := 200, body := [0x5B, 0x31, 0x5D] }

/-- A configuration, a choice of what is logged, and that server. -/
def configured (text : String) (filter : Option String) : Surroundings where
  files := fun _ => .ok (Text.Utf8.encode text.toList)
  env := fun name => if name = Log.filterVariable then filter else none
  server := fun _ => .answer lone

theorem readText_configured (text : String) (filter : Option String) (path : List Char) :
    (configured text filter).files.readText path = .ok text.toList := by
  unfold configured Files.readText
  simp only [Text.Utf8.decode?_encode, Option.elim]

section

open scoped Builtin

/-- Configurations that differ in their sections on output and logging, and flags for the log. -/
theorem presentation_is_inert_configured :
    let around := configured "[output]\npretty = true\n" none
    let around' := configured "[output]\npretty = false\n[logging]\nlevel = \"debug\"\n" (some "off")
    ∃ report report', run ["-c", "c"] around = .ok report ∧
      run ["-v", "--log-json", "-c", "c"] around' = .ok report' ∧
      report'.requests = report.requests ∧ report'.exitCode = report.exitCode ∧
      report.out.written = Text.Utf8.encode "[\n  1\n]\n".toList ∧
      report'.out.written = Text.Utf8.encode "[1]\n".toList := by
  intro around around'
  let line : CommandLine := { config := some "c" }
  let line' : CommandLine := { config := some "c", verbose := true, logJson := true }
  have hline : CommandLine.parse ["-c", "c"] = .ok line := rfl
  have hline' : CommandLine.parse ["-v", "--log-json", "-c", "c"] = .ok line' := rfl
  have hfile : line.configFile around.files around.env
      = .ok (some { output := some { pretty := some true } }) :=
    eq_ok_of_toOption (by decide +kernel)
  have hfile' : line'.configFile around'.files around'.env
      = .ok (some { output := some { pretty := some false }
                    logging := some { level := some "debug" } }) :=
    eq_ok_of_toOption (by decide +kernel)
  have hdiffer : DifferInPresentation line line' around around' :=
    { taskId := rfl, submit := rfl, noCompress := rfl, timeoutSecs := rfl, config := rfl
      server := rfl, out := rfl
      document := by rintro path ⟨⟩
      env := fun name hname => (if_neg hname).trans (if_neg hname).symm
      unnamed := fun path _ => .inr fun text htext => Config.not_mentions_of_plain <| by
        rcases htext with htext | htext
        all_goals
          rw [readText_configured] at htext
          cases htext
          decide
      accepted := .inr ⟨⟨_, CommandLine.settings_of_configFile hfile rfl⟩,
        _, CommandLine.settings_of_configFile hfile' rfl⟩
      timeoutSeconds := by
        intro file file' h h'
        cases hfile.symm.trans h
        cases hfile'.symm.trans h'
        rfl
      compressRequests := by
        intro file file' h h'
        cases hfile.symm.trans h
        cases hfile'.symm.trans h'
        rfl }
  obtain ⟨report, report', hrun, hrun', hrequests, hcode, -, -, -⟩ :=
    presentation_is_inert hline hline' hdiffer rfl rfl rfl
  have hout : (run ["-c", "c"] around).toOption.map (·.out.written)
      = some (Text.Utf8.encode "[\n  1\n]\n".toList) := by decide +kernel
  have hout' : (run ["-v", "--log-json", "-c", "c"] around').toOption.map (·.out.written)
      = some (Text.Utf8.encode "[1]\n".toList) := by decide +kernel
  rw [hrun] at hout
  rw [hrun'] at hout'
  exact ⟨report, report', hrun, hrun', hrequests, hcode, Option.some.inj hout,
    Option.some.inj hout'⟩

end

end Program

end TaskProbe
