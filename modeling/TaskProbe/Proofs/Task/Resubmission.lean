import TaskProbe.Proofs.Task.Output
import TaskProbe.Proofs.Task.Submission

/-!
# Printed documents

What a run prints can be saved and submitted (`printed_document_is_read`): in either layout, the
printed text is read as the value it was printed from. A value that was fetched was read from a text
itself, so it is in order and does not nest too deeply.
-/

namespace TaskProbe

open Text

/-! ## Printing -/

/-- A printed line is read as the value that it was printed for. -/
theorem Json.parse_printed {v : Value} (hi : v.Integral) (ho : v.Ordered)
    (hd : v.depth ≤ maxDepth) (layout : Layout) : parse (v.printed layout) = .ok v := by
  have hline : IsGap (Utf8.encode ['\n']) := isGap_encode_cons (.inr rfl) isGap_encode_nil
  rw [Value.printed, Utf8.encode_append]
  exact parse_write hi ho hd layout hline

theorem readPayload_of_printed {v : Json.Value} (hi : v.Integral) (ho : v.Ordered)
    (hd : v.depth ≤ Json.maxDepth) {layout : Json.Layout} {files : Files} {path : String}
    (hf : files path.toList = .ok (v.printed layout)) : readPayload files path = .ok v :=
  readPayload_of_parse hf (Json.parse_printed hi ho hd layout)

/-- A run that comes to an outcome printed its body. -/
theorem Command.printed_of_run {σ : Type} {api : TaskApi σ} {command : Command} {s : σ}
    {layout : Json.Layout} {out : Sink} {o : Outcome}
    (h : (command.run api layout s out).result = .ok o) :
    (command.call api s).result = .ok o ∧
      (command.run api layout s out).out.written = out.written ++ o.body.printed layout := by
  cases hcall : (command.call api s).result with
  | error e =>
    obtain ⟨_, hrun⟩ := run_of_error hcall layout out
    rw [hrun] at h
    cases h
  | ok o' =>
    obtain ⟨_, hrun⟩ := run_of_ok hcall layout out
    rw [hrun] at h ⊢
    cases hprint : (out.print (o'.body.write layout)).1 with
    | error e => rw [hprint] at h; cases h
    | ok u =>
      rw [hprint] at h
      cases h
      exact ⟨rfl, Sink.written_of_print hprint⟩

section

variable [Url.Idna] [Gzip.Deflater]

/-- The body of a task that was fetched was read from a text. -/
theorem Command.parse_of_fetch {c : Client} {server : Http.Server} {seen : List Http.Request}
    {id : TaskId} {o : Outcome} (h : ((fetch id).call (c.api server) seen).result = .ok o) :
    ∃ data, Json.parse data = .ok o.body := by
  obtain ⟨received, h⟩ := received_of_call c server seen h
  cases hf : Fetched.ofReceived received with
  | error e => rw [hf] at h; cases h
  | ok f =>
    rw [hf] at h
    cases h
    exact ⟨received.data, (Fetched.parse_of_ofReceived hf).1⟩

/-- The body of an outcome was read from a text or is a text. -/
theorem Command.wellFormed_of_call {c : Client} {server : Http.Server} {seen : List Http.Request}
    {command : Command} {o : Outcome}
    (h : (command.call (c.api server) seen).result = .ok o) : Json.WellFormed Json.maxDepth o.body := by
  cases command with
  | fetch id =>
    obtain ⟨data, hdata⟩ := parse_of_fetch h
    exact Json.wellFormed_of_parse hdata
  | submit id payload =>
    obtain ⟨received, rfl⟩ := received_of_call c server seen h
    show Json.WellFormed Json.maxDepth (Submitted.ofReceived received).body
    unfold Submitted.ofReceived
    cases hbody : Json.parse received.data with
    | ok body => exact Json.wellFormed_of_parse hbody
    | error e => exact ⟨Nat.zero_le _, .string _⟩

end

/-- **What is printed is the document, and it can be submitted as such.** In either layout, a file
with the printed line of a value is read as this value, if its numbers are integers of 64 bits and it
does not nest too deeply. So if a task was fetched and what was printed is in a file, submitting that
file posts the document that was fetched. -/
theorem printed_document_is_read [Url.Idna] [Gzip.Compressor] :
    (∀ v : Json.Value, v.Integral → v.Ordered → v.depth ≤ 127 →
      ∀ (layout : Json.Layout) (files : Files) (path : String),
        files path.toList = .ok (Utf8.encode (v.write layout ++ ['\n'])) →
          readPayload files path = .ok v) ∧
    ∀ (c : Client) (server : Http.Server) (seen : List Http.Request) (id : TaskId)
      (layout : Json.Layout) (out : Sink) (o : Outcome),
      ((Command.fetch id).run (c.api server) layout seen out).result = .ok o →
      out.written = [] → o.body.Integral →
      ∀ (line : CommandLine) (files : Files) (path : String) (id' : TaskId),
        line.submit = some path → TaskId.parse line.taskId.toList = .ok id' →
        files path.toList = .ok ((Command.fetch id).run (c.api server) layout seen out).out.written →
          line.command files = .ok (.submit id' o.body) ∧
          ∀ (c' : Client) (server' : Http.Server) (seen' : List Http.Request), ∃ sent,
            ((Command.submit id' o.body).call (c'.api server') seen').state = seen' ++ sent ∧
            (sent = [] → c'.timeout = some 0 ∨
              server' (seen' ++ [c'.submitRequest id' o.body]) = .refused) ∧
            ∀ request, sent.head? = some request → request.method = .post ∧
              ∃ text, ContentCoding.decode request.body (request.contentEncoding.map String.toList)
                = .ok text ∧ Json.parse text = .ok o.body := by
  refine ⟨fun v hi ho hd layout files path hf => readPayload_of_printed hi ho hd hf, ?_⟩
  intro c server seen id layout out o hresult hempty hi line files path id' hs hid hf
  obtain ⟨hcall, hwritten⟩ := Command.printed_of_run hresult
  obtain ⟨data, hdata⟩ := Command.parse_of_fetch hcall
  obtain ⟨hd, ho⟩ := Json.wellFormed_of_parse hdata
  rw [hwritten, hempty, List.nil_append] at hf
  have hpayload := readPayload_of_printed hi ho hd hf
  refine ⟨CommandLine.command_of_readPayload hs hid hpayload, fun c' server' seen' => ?_⟩
  obtain ⟨sent, hseen, hsent, hhead⟩ := c'.submit_seen server' seen' id' o.body
  refine ⟨sent, hseen, hsent, fun request hr => ?_⟩
  rw [hhead request hr]
  exact ⟨rfl, _, c'.document_submitRequest id' o.body, Json.parse_compact hi ho hd⟩

/-- An empty object. -/
def braces : Http.Response := { status := 200, body := [0x7b, 0x7d] }

theorem printed_document_is_read_braces :
    let line : CommandLine := { submit := some "saved" }
    readPayload (fun _ => .ok (Utf8.encode (oneField.write .pretty ++ ['\n']))) "saved"
        = .ok oneField ∧
      line.command (fun _ => .ok [0x7b, 0x7d, 0x0A]) = .ok (.submit .default (.object [])) := by
  intro line
  have hintegral : oneField.Integral := Json.integral_of_spelling spelling_spelledField
  let := Builtin.asciiNames
  let := Gzip.Compressor.stored
  let c : Client := ⟨⟨Url.http, [], [], none, none, .segments [[]], none, none⟩, true, none⟩
  have hsaved := printed_document_is_read.2 c (fun _ => .answer braces) [] .default .pretty {}
    ⟨200, .object [], none⟩ rfl rfl (.object (List.forall_mem_nil _)) line
    (fun _ => .ok [0x7b, 0x7d, 0x0A]) "saved" .default rfl (TaskId.parse_of_trim (by decide)) rfl
  exact ⟨printed_document_is_read.1 oneField hintegral ordered_oneField (by decide) .pretty _ "saved" rfl,
    hsaved.1⟩

end TaskProbe
