import TaskProbe.Builtin
import TaskProbe.Proofs.Json.Parsed
import TaskProbe.Proofs.Task.Output
import TaskProbe.Proofs.Task.Submission

/-!
# What a reply says

A response that arrives is read in the same way whatever it was asked for. Either no data can be read
from it, and the error says why (`Unread`); or its data is read (`Reads`).

* `failure_status_is_reported`: a response that reports no success is an error with its status, and
  with its body as far as it can be read
* `fetch_and_submit_agree`: fetching and submitting differ only in what they make of data that is no
  JSON text
-/

namespace TaskProbe

open Text

/-! ## Responses that arrive -/

/-- The client gets this response to a request, at once or after redirects. -/
structure Client.Receives [Url.Idna] (c : Client) (server : Http.Server)
    (seen : List Http.Request) (request : Http.Request) (r : Http.Response) : Prop where
  /-- There is time for an exchange. -/
  timeout : c.timeout ≠ some 0
  arrives : Http.Arrives server r Http.maxRedirects seen request

section Receives

variable [Url.Idna] {c : Client} {server : Http.Server} {seen : List Http.Request} {r : Http.Response}

theorem Client.Receives.reading {α : Type} {request : Http.Request}
    (h : c.Receives server seen request r) (read : Http.Response → Except ProbeError α) :
    (c.exchange server seen request).reading read = read r := by
  rw [Http.Exchange.reading, Client.exchange_eq_ok_iff.mpr ⟨h.timeout, h.arrives⟩]

theorem Client.fetch_of_receives {id : TaskId} (h : c.Receives server seen (c.fetchRequest id) r) :
    (c.fetch server id seen).result = Fetched.ofResponse r := by
  rw [Client.fetch_result, h.reading]

variable [Gzip.Deflater]

theorem Client.submit_of_receives {id : TaskId} {payload : Json.Value}
    (h : c.Receives server seen (c.submitRequest id payload) r) :
    (c.submit server id payload seen).result = Submitted.ofResponse r := by
  rw [Client.submit_result, h.reading]

theorem Command.call_of_receives {command : Command}
    (h : c.Receives server seen (c.requestFor command) r) :
    (command.call (c.api server) seen).result = command.outcome r := by
  rw [Command.call_result, h.reading]

/-- A call that fails prints nothing. -/
theorem Command.silent_of_outcome {command : Command} {e : ProbeError}
    (h : c.Receives server seen (c.requestFor command) r) (he : command.outcome r = .error e)
    (layout : Json.Layout) (out : Sink) :
    (command.run (c.api server) layout seen out).result = .error e ∧
      (command.run (c.api server) layout seen out).out = out := by
  obtain ⟨_, hrun⟩ := Command.run_of_error ((Command.call_of_receives h).trans he) layout out
  rw [hrun]
  exact ⟨rfl, rfl⟩

end Receives

/-! ## Reading a response -/

/-- Whether the status of a response says that the request succeeded. -/
def Http.Response.Succeeds (r : Response) : Prop := 200 ≤ r.status ∧ r.status ≤ 299

theorem Http.Response.isSuccess_iff {r : Response} : r.isSuccess = true ↔ r.Succeeds := by
  simp only [isSuccess, Succeeds, Bool.and_eq_true, decide_eq_true_eq]
  omega

/-- The data of a response as it can be read: all of it has arrived, its status says that the request
succeeded, and its body unpacks to the data. -/
structure Reads (r : Http.Response) (data : List UInt8) : Prop where
  complete : r.complete = true
  success : r.Succeeds
  unpacked : ContentCoding.decode r.body r.contentEncoding = .ok data

/-- The body of a response as far as it can be unpacked. -/
inductive Unpacked (r : Http.Response) : List UInt8 → Prop where
  | whole {data : List UInt8} (h : ContentCoding.decode r.body r.contentEncoding = .ok data) :
      Unpacked r data
  | raw {e : ProbeError} (h : ContentCoding.decode r.body r.contentEncoding = .error e) :
      Unpacked r r.body

/-- Why no data can be read from a response. -/
inductive Unread (r : Http.Response) : ProbeError → Prop where
  | truncated (h : r.complete = false) : Unread r (.transport .truncatedBody)
  | failed {data : List UInt8} (hc : r.complete = true) (hs : ¬ r.Succeeds) (h : Unpacked r data) :
      Unread r (.httpStatus r.status (String.ofList ((Utf8.lossy data).take 512)))
  | packed {e : ProbeError} (hc : r.complete = true) (hs : r.Succeeds)
      (h : ContentCoding.decode r.body r.contentEncoding = .error e) : Unread r e

theorem unpacked_unpackedOrRaw (r : Http.Response) : Unpacked r (unpackedOrRaw r) := by
  unfold unpackedOrRaw
  split
  · next h => exact .whole h
  · next h => exact .raw h

theorem Received.ofResponse_of_reads {r : Http.Response} {data : List UInt8} (h : Reads r data) :
    ofResponse r = .ok ⟨r.status, r.contentEncoding, data⟩ := by
  unfold ofResponse
  rw [h.complete, Http.Response.isSuccess_iff.mpr h.success, h.unpacked]
  rfl

theorem Received.ofResponse_of_failure {r : Http.Response} (hc : r.complete = true)
    (hs : ¬ r.Succeeds) : ofResponse r
      = .error (.httpStatus r.status (String.ofList ((Utf8.lossy (unpackedOrRaw r)).take 512))) := by
  have hfailed : r.isSuccess = false :=
    Bool.eq_false_iff.mpr fun h => hs (Http.Response.isSuccess_iff.mp h)
  unfold ofResponse
  rw [hc, hfailed]
  rfl

/-- A response is read, or there is a reason why it is not. -/
theorem reads_or_unread (r : Http.Response) :
    (∃ data, Reads r data) ∨ ∃ e, Unread r e ∧ Received.ofResponse r = .error e := by
  cases hc : r.complete with
  | false =>
    refine .inr ⟨_, .truncated hc, ?_⟩
    unfold Received.ofResponse
    rw [hc]
    rfl
  | true =>
    by_cases hs : r.Succeeds
    · cases hd : ContentCoding.decode r.body r.contentEncoding with
      | ok data => exact .inl ⟨data, hc, hs, hd⟩
      | error e =>
        refine .inr ⟨e, .packed hc hs hd, ?_⟩
        unfold Received.ofResponse
        rw [hc, Http.Response.isSuccess_iff.mpr hs, hd]
        rfl
    · exact .inr ⟨_, .failed hc hs (unpacked_unpackedOrRaw r), Received.ofResponse_of_failure hc hs⟩

theorem Fetched.ofResponse_of_error {r : Http.Response} {e : ProbeError}
    (h : Received.ofResponse r = .error e) : ofResponse r = .error e := by
  unfold ofResponse
  rw [h]
  rfl

theorem Submitted.ofResponse_of_error {r : Http.Response} {e : ProbeError}
    (h : Received.ofResponse r = .error e) : ofResponse r = .error e := by
  unfold ofResponse
  rw [h]
  rfl

theorem Command.outcome_of_error {command : Command} {r : Http.Response} {e : ProbeError}
    (h : Received.ofResponse r = .error e) : command.outcome r = .error e := by
  cases command with
  | fetch id => rw [outcome, Fetched.ofResponse_of_error h]; rfl
  | submit id payload => rw [outcome, Submitted.ofResponse_of_error h]; rfl

/-! ## Responses that report no success -/

/-- **A response that reports no success is an error with its status**, whatever its body is like and
however that is labelled: fetching and submitting both fail with the status and the start of the body,
as text, as far as the body can be unpacked. Nothing is printed or flushed. -/
theorem failure_status_is_reported [Url.Idna] [Gzip.Deflater] {c : Client} {server : Http.Server}
    {seen : List Http.Request} {command : Command} {r : Http.Response}
    (hr : c.Receives server seen (c.requestFor command) r) (hc : r.complete = true)
    (hs : r.status < 200 ∨ 299 < r.status) (layout : Json.Layout) (out : Sink) :
    ∃ data, Unpacked r data ∧
      let error := ProbeError.httpStatus r.status (String.ofList ((Utf8.lossy data).take 512))
      let step := command.run (c.api server) layout seen out
      (match command with
        | .fetch id => (c.fetch server id seen).result = .error error
        | .submit id payload => (c.submit server id payload seen).result = .error error) ∧
      step.result = .error error ∧ step.out = out := by
  have hfailed : ¬ r.Succeeds := by
    rintro ⟨hlow, hhigh⟩
    omega
  have herror := Received.ofResponse_of_failure hc hfailed
  refine ⟨unpackedOrRaw r, unpacked_unpackedOrRaw r, ?_, ?_⟩
  · cases command with
    | fetch id => exact (Client.fetch_of_receives hr).trans (Fetched.ofResponse_of_error herror)
    | submit id payload =>
      exact (Client.submit_of_receives hr).trans (Submitted.ofResponse_of_error herror)
  · exact Command.silent_of_outcome hr (Command.outcome_of_error herror) layout out

/-- A failure of a gateway, in a coding that is not known and with a byte that is no text. -/
def badGateway : Http.Response where
  status := 502
  fields := [("content-encoding", [0x62, 0x72])]
  body := [0x6E, 0x6F, 0xFF]

section

open scoped Builtin

theorem failure_status_is_reported_badGateway :
    let c : Client := ⟨⟨Url.http, [], [], none, none, .segments [[]], none, none⟩, true, none⟩
    let step := (Command.submit .default .null).run (c.api fun _ => .answer badGateway) .compact [] {}
    ∃ data, Unpacked badGateway data ∧
      step.result = .error (.httpStatus 502 (String.ofList ((Utf8.lossy data).take 512))) ∧
      step.out = {} := by
  intro c step
  have hr : c.Receives (fun _ => .answer badGateway) [] (c.requestFor (.submit .default .null))
      badGateway := ⟨by decide, .final rfl rfl⟩
  obtain ⟨data, hdata, -, hresult, hout⟩ :=
    failure_status_is_reported hr rfl (.inr (by decide)) .compact {}
  exact ⟨data, hdata, hresult, hout⟩

end

/-! ## Fetching and submitting -/

/-- A run prints an outcome: its body is given to the output, and if that works the outcome is the
result. -/
structure Step.Prints {σ : Type} (step : Step σ) (layout : Json.Layout) (out : Sink) (o : Outcome) :
    Prop where
  result : step.result = (out.print (o.body.write layout)).1.map fun _ => o
  out : step.out = (out.print (o.body.write layout)).2

theorem Step.Prints.written {σ : Type} {step : Step σ} {layout : Json.Layout} {out : Sink}
    {o o' : Outcome} (h : step.Prints layout out o) (hok : step.result = .ok o') :
    step.out.written = out.written ++ o.body.printed layout := by
  have hprint : (out.print (o.body.write layout)).1 = .ok () := by
    have hresult := h.result
    rw [hok] at hresult
    cases hp : (out.print (o.body.write layout)).1 with
    | error e => rw [hp] at hresult; cases hresult
    | ok _ => rfl
  rw [h.out]
  exact Sink.written_of_print hprint

theorem Command.prints_of_outcome [Url.Idna] [Gzip.Deflater] {c : Client} {server : Http.Server}
    {seen : List Http.Request} {command : Command} {r : Http.Response} {o : Outcome}
    (hr : c.Receives server seen (c.requestFor command) r) (ho : command.outcome r = .ok o)
    (layout : Json.Layout) (out : Sink) :
    (command.run (c.api server) layout seen out).Prints layout out o := by
  obtain ⟨_, hrun⟩ := Command.run_of_ok ((Command.call_of_receives hr).trans ho) layout out
  rw [hrun]
  exact ⟨rfl, rfl⟩

/-- What is made of data that was read: a task must be a JSON text, and the answer to a document that
is none is a text. -/
theorem Fetched.ofResponse_of_reads {r : Http.Response} {data : List UInt8} (h : Reads r data) :
    (∀ v, Json.parse data = .ok v → ofResponse r
      = .ok ⟨r.status, r.contentEncoding.map String.ofList, v, ServerError.ofBody v⟩) ∧
    ∀ e, Json.parse data = .error e → ∃ message, ofResponse r = .error (.decode message) := by
  have hread : ofResponse r = ofReceived ⟨r.status, r.contentEncoding, data⟩ := by
    unfold ofResponse
    rw [Received.ofResponse_of_reads h]
    rfl
  rw [hread]
  unfold ofReceived
  dsimp only
  constructor
  · intro v hv
    rw [hv]
  · intro e he
    rw [he]
    exact ⟨_, rfl⟩

theorem Submitted.ofResponse_of_reads {r : Http.Response} {data : List UInt8} (h : Reads r data) :
    (∀ v, Json.parse data = .ok v → ofResponse r = .ok ⟨r.status, v⟩) ∧
    ∀ e, Json.parse data = .error e →
      ofResponse r = .ok ⟨r.status, .string (String.ofList (Utf8.lossy data))⟩ := by
  have hread : ofResponse r = .ok (ofReceived ⟨r.status, r.contentEncoding, data⟩) := by
    unfold ofResponse
    rw [Received.ofResponse_of_reads h]
    rfl
  rw [hread]
  unfold ofReceived
  dsimp only
  constructor
  · intro v hv
    rw [hv]
  · intro e he
    rw [he]

/-- Of the responses that report success, only those are no answers whose body cannot be unpacked. -/
theorem Submitted.ofResponse_fails_iff {r : Http.Response} (hc : r.complete = true)
    (hs : r.Succeeds) : (∃ e, ofResponse r = .error e) ↔
      ∃ e, ContentCoding.decode r.body r.contentEncoding = .error e := by
  constructor
  · rintro ⟨e, he⟩
    cases hd : ContentCoding.decode r.body r.contentEncoding with
    | error e' => exact ⟨e', rfl⟩
    | ok data =>
      -- data that is read makes an answer, JSON text or not
      have hanswer := ofResponse_of_reads ⟨hc, hs, hd⟩
      cases hv : Json.parse data with
      | ok v => cases he.symm.trans (hanswer.1 v hv)
      | error e' => cases he.symm.trans (hanswer.2 e' hv)
  · rintro ⟨e, he⟩
    rcases reads_or_unread r with ⟨data, hreads⟩ | ⟨e', _, herror⟩
    · cases he.symm.trans hreads.unpacked
    · exact ⟨e', ofResponse_of_error herror⟩

/-- A printed string is read as that string. -/
theorem Json.parse_printed_string (s : String) (layout : Layout) :
    parse ((Value.string s).printed layout) = .ok (.string s) := by
  rw [Value.printed, Utf8.encode_append]
  exact parse_write (.string s) (.string s) (Nat.zero_le _) layout
    (isGap_encode_cons (.inr rfl) isGap_encode_nil)

/-- **Fetching and submitting agree on what a reply says.** One response is the reply to a task that is
fetched and to a document that is submitted, by any clients and servers. If no data can be read from
it, both fail with the same error. If its data is a JSON text, both give its value, and running the two
prints the same and comes to the same outcome, with the failure that the value reports. If its data is
no JSON text, the task cannot be had and nothing is printed, while the answer to the document is the
data as a text, which reports no failure and is read again from what is printed. So of the responses
that report success, submitting only fails at those whose body cannot be unpacked. -/
theorem fetch_and_submit_agree [Url.Idna] [Gzip.Deflater] {c c' : Client}
    {server server' : Http.Server} {seen seen' : List Http.Request} {id id' : TaskId}
    {payload : Json.Value} {r : Http.Response}
    (hr : c.Receives server seen (c.fetchRequest id) r)
    (hr' : c'.Receives server' seen' (c'.submitRequest id' payload) r)
    (layout : Json.Layout) (out : Sink) :
    let fetched := (c.fetch server id seen).result
    let submitted := (c'.submit server' id' payload seen').result
    let fetching := (Command.fetch id).run (c.api server) layout seen out
    let submitting := (Command.submit id' payload).run (c'.api server') layout seen' out
    ((¬ ∃ data, Reads r data) → ∃ e, Unread r e ∧ fetched = .error e ∧ submitted = .error e) ∧
    (∀ data v, Reads r data → Json.parse data = .ok v →
      fetched = .ok ⟨r.status, r.contentEncoding.map String.ofList, v, ServerError.ofBody v⟩ ∧
      submitted = .ok ⟨r.status, v⟩ ∧
      fetching.Prints layout out ⟨r.status, v, ServerError.ofBody v⟩ ∧
      submitting.Prints layout out ⟨r.status, v, ServerError.ofBody v⟩) ∧
    (∀ data e, Reads r data → Json.parse data = .error e →
      (∃ message, fetched = .error (.decode message) ∧ fetching.result = .error (.decode message) ∧
        fetching.out = out) ∧
      ∃ text, text.toList = Utf8.lossy data ∧ (∀ t, data = Utf8.encode t → text.toList = t) ∧
        submitted = .ok ⟨r.status, .string text⟩ ∧
        submitting.Prints layout out ⟨r.status, .string text, none⟩ ∧
        ∀ o, submitting.result = .ok o → ∃ line, submitting.out.written = out.written ++ line ∧
          Json.parse line = .ok (.string text)) ∧
    (r.complete = true → 200 ≤ r.status ∧ r.status ≤ 299 →
      ((∃ e, submitted = .error e) ↔
        ∃ e, ContentCoding.decode r.body r.contentEncoding = .error e)) := by
  intro fetched submitted fetching submitting
  have hfetched : fetched = Fetched.ofResponse r := Client.fetch_of_receives hr
  have hsubmitted : submitted = Submitted.ofResponse r := Client.submit_of_receives hr'
  refine ⟨?_, ?_, ?_, ?_⟩
  · intro hnone
    obtain ⟨e, hunread, herror⟩ := (reads_or_unread r).resolve_left hnone
    exact ⟨e, hunread, hfetched.trans (Fetched.ofResponse_of_error herror),
      hsubmitted.trans (Submitted.ofResponse_of_error herror)⟩
  · intro data v hreads hv
    have htask := (Fetched.ofResponse_of_reads hreads).1 v hv
    have hanswer := (Submitted.ofResponse_of_reads hreads).1 v hv
    refine ⟨hfetched.trans htask, hsubmitted.trans hanswer, ?_, ?_⟩
    · exact Command.prints_of_outcome hr (by rw [Command.outcome, htask]; rfl) layout out
    · exact Command.prints_of_outcome hr' (by rw [Command.outcome, hanswer]; rfl) layout out
  · intro data e hreads he
    obtain ⟨message, htask⟩ := (Fetched.ofResponse_of_reads hreads).2 e he
    have hanswer := (Submitted.ofResponse_of_reads hreads).2 e he
    constructor
    · have houtcome : (Command.fetch id).outcome r = .error (.decode message) := by
        rw [Command.outcome, htask]
        rfl
      exact ⟨message, hfetched.trans htask, Command.silent_of_outcome hr houtcome layout out⟩
    · have houtcome : (Command.submit id' payload).outcome r
          = .ok ⟨r.status, .string (String.ofList (Utf8.lossy data)), none⟩ := by
        rw [Command.outcome, hanswer]
        rfl
      have hprints := Command.prints_of_outcome hr' houtcome layout out
      refine ⟨String.ofList (Utf8.lossy data), String.toList_ofList, ?_, hsubmitted.trans hanswer,
        hprints, ?_⟩
      · rintro t rfl
        rw [String.toList_ofList, Utf8.lossy_encode]
      · intro o ho
        exact ⟨_, hprints.written ho, Json.parse_printed_string _ layout⟩
  · intro hc hs
    rw [hsubmitted]
    exact Submitted.ofResponse_fails_iff hc hs

/-- A reply that is a line of text. -/
def plainLine : Http.Response := { status := 200, body := [0x6F, 0x6B, 0x0A] }

section

open scoped Builtin

theorem fetch_and_submit_agree_plainLine :
    let c : Client := ⟨⟨Url.http, [], [], none, none, .segments [[]], none, none⟩, true, none⟩
    let server : Http.Server := fun _ => .answer plainLine
    (∃ message, (c.fetch server .default []).result = .error (.decode message)) ∧
      (c.submit server .default .null []).result = .ok ⟨200, .string "ok\n"⟩ := by
  intro c server
  have hr : c.Receives server [] (c.fetchRequest .default) plainLine := ⟨by decide, .final rfl rfl⟩
  have hr' : c.Receives server [] (c.submitRequest .default .null) plainLine :=
    ⟨by decide, .final rfl rfl⟩
  have hreads : Reads plainLine plainLine.body := ⟨rfl, ⟨by decide, by decide⟩, by rfl⟩
  obtain ⟨-, -, htext, -⟩ := fetch_and_submit_agree hr hr' .compact {}
  cases hparse : Json.parse plainLine.body with
  | ok v =>
    have hnone : (Json.parse plainLine.body).toOption.isNone = true := by decide +kernel
    rw [hparse] at hnone
    cases hnone
  | error e =>
    obtain ⟨⟨message, hfetched, -⟩, text, -, hexact, hsubmitted, -⟩ := htext _ e hreads hparse
    have hok : text = "ok\n" := String.toList_inj.mp (hexact "ok\n".toList (by decide))
    exact ⟨⟨message, hfetched⟩, hok ▸ hsubmitted⟩

end

end TaskProbe
