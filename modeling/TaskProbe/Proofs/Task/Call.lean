import TaskProbe.Proofs.Http.Redirects
import TaskProbe.Proofs.Outcomes
import TaskProbe.Task.Client
import TaskProbe.Task.Probe

/-!
# Calls and runs, taken apart

A call of the client is one exchange followed by a function of the response, and a run is one call
followed by the printing of its body. The lemmas here say this once, for both commands, so that a
statement about runs needs only one about exchanges and one about responses. A call that ends fails with
an error about the exchange or the response (`CallFails`); it never ends exactly if there is no limit to
its time and a request of it is left without a reply (`Client.exchange_unending_iff`). How often an
interface is called is said with one that keeps a record of its calls (`TaskApi.recorded`).
-/

namespace TaskProbe

/-! ## Calls -/

/-- The request that a command makes of the client. -/
def Client.requestFor [Gzip.Deflater] (c : Client) : Command → Http.Request
  | .fetch id => c.fetchRequest id
  | .submit id payload => c.submitRequest id payload

/-- What a command makes of a response. -/
def Command.outcome (command : Command) (r : Http.Response) : Except ProbeError Outcome :=
  match command with
  | .fetch _ => (Fetched.ofResponse r).map Outcome.ofFetched
  | .submit _ _ => (Submitted.ofResponse r).map Outcome.ofSubmitted

/-- What is made of an exchange by a reader of responses. -/
def Http.Exchange.reading {α : Type} (x : Exchange) (read : Response → Except ProbeError α) :
    Except ProbeError α :=
  match x.result with
  | .error fault => .error (.transport fault)
  | .ok r => read r

theorem Http.Exchange.reading_map {α β : Type} (x : Exchange)
    (read : Response → Except ProbeError α) (f : α → β) :
    (x.reading read).map f = x.reading fun r => (read r).map f := by
  unfold reading
  cases x.result <;> rfl

theorem Client.callOf_result {α : Type} (announced : Log.Event) (x : Http.Exchange)
    (read : Http.Response → Except ProbeError α) (events : α → List Log.Event) :
    (callOf announced x read events).result = x.reading read := by
  unfold callOf Http.Exchange.reading
  cases x.result <;> rfl

theorem Client.callOf_state {α : Type} (announced : Log.Event) (x : Http.Exchange)
    (read : Http.Response → Except ProbeError α) (events : α → List Log.Event) :
    (callOf announced x read events).state = x.seen := by
  unfold callOf
  cases x.result <;> rfl

section Fetching

variable [Url.Idna] (c : Client) (server : Http.Server) (seen : List Http.Request) (id : TaskId)

theorem Client.fetch_result : (c.fetch server id seen).result
    = (c.exchange server seen (c.fetchRequest id)).reading Fetched.ofResponse :=
  callOf_result _ _ _ _

theorem Client.fetch_state :
    (c.fetch server id seen).state = (c.exchange server seen (c.fetchRequest id)).seen :=
  callOf_state _ _ _ _

end Fetching

section Calls

variable [Url.Idna] [Gzip.Deflater] (c : Client) (server : Http.Server) (seen : List Http.Request)

theorem Client.submit_result (id : TaskId) (payload : Json.Value) :
    (c.submit server id payload seen).result
      = (c.exchange server seen (c.submitRequest id payload)).reading Submitted.ofResponse :=
  callOf_result _ _ _ _

theorem Client.submit_state (id : TaskId) (payload : Json.Value) :
    (c.submit server id payload seen).state
      = (c.exchange server seen (c.submitRequest id payload)).seen :=
  callOf_state _ _ _ _

theorem Command.call_result (command : Command) : (command.call (c.api server) seen).result
    = (c.exchange server seen (c.requestFor command)).reading command.outcome := by
  cases command with
  | fetch id =>
    show (c.fetch server id seen).result.map Outcome.ofFetched = _
    rw [Client.fetch_result, Http.Exchange.reading_map]
    rfl
  | submit id payload =>
    show (c.submit server id payload seen).result.map Outcome.ofSubmitted = _
    rw [Client.submit_result, Http.Exchange.reading_map]
    rfl

theorem Command.call_state (command : Command) : (command.call (c.api server) seen).state
    = (c.exchange server seen (c.requestFor command)).seen := by
  cases command with
  | fetch id => exact c.fetch_state server seen id
  | submit id payload => exact c.submit_state server seen id payload

/-- A call that succeeds was made of a response that could be received: a task is the JSON value in
it, and the answer to a document is whatever it holds. -/
theorem Command.received_of_call {command : Command} {o : Outcome}
    (h : (command.call (c.api server) seen).result = .ok o) : ∃ received,
      match command with
      | .fetch _ => (Fetched.ofReceived received).map Outcome.ofFetched = .ok o
      | .submit _ _ => Outcome.ofSubmitted (Submitted.ofReceived received) = o := by
  rw [call_result] at h
  unfold Http.Exchange.reading at h
  split at h
  · cases h
  next r _ =>
  cases hr : Received.ofResponse r with
  | error e =>
    cases command <;>
      simp only [outcome, Fetched.ofResponse, Submitted.ofResponse, hr] at h <;> cases h
  | ok received =>
    refine ⟨received, ?_⟩
    cases command with
    | fetch id =>
      simp only [outcome, Fetched.ofResponse, hr] at h
      exact h
    | submit id payload =>
      simp only [outcome, Submitted.ofResponse, hr] at h
      cases h
      rfl

end Calls

/-- A task is the JSON value that its text is read as, with the failure that it speaks of. -/
theorem Fetched.parse_of_ofReceived {received : Received} {f : Fetched}
    (h : ofReceived received = .ok f) :
    Json.parse received.data = .ok f.body ∧ f.serverError = ServerError.ofBody f.body := by
  unfold ofReceived at h
  split at h
  · cases h
  · next hbody =>
    cases h
    exact ⟨hbody, rfl⟩

/-! ## The time allowed -/

namespace Client

section Timed

variable [Url.Idna] {c : Client} {server : Http.Server} {seen : List Http.Request}
  {request : Http.Request} {r : Http.Response}

/-- Without any time nothing is sent. -/
theorem exchange_of_untimed (ht : c.timeout = some 0) :
    c.exchange server seen request = ⟨.error (.timedOut request.url), seen⟩ := by
  rw [exchange, if_pos ht]

theorem exchange_of_timed (ht : c.timeout ≠ some 0) :
    c.exchange server seen request = (Http.exchangeFrom server request.url Http.maxRedirects seen
      request).within c.timeout := by
  rw [exchange, if_neg ht, Http.exchange]

/-- An exchange gives a response exactly if its request leads to it in the time allowed. -/
theorem exchange_eq_ok_iff : (c.exchange server seen request).result = .ok r ↔
    c.timeout ≠ some 0 ∧ Http.Arrives server r Http.maxRedirects seen request := by
  by_cases ht : c.timeout = some 0
  · rw [exchange_of_untimed ht]
    exact iff_of_false nofun fun h => h.1 ht
  · rw [exchange_of_timed ht, Http.Exchange.within_eq_ok_iff, Http.exchangeFrom_eq_ok_iff]
    exact ⟨fun h => ⟨ht, h⟩, fun h => h.2⟩

theorem exchange_of_final (ht : c.timeout ≠ some 0) (h : server (seen ++ [request]) = .answer r)
    (hf : r.target? request.url = none) :
    c.exchange server seen request = ⟨.ok r, seen ++ [request]⟩ := by
  rw [exchange_of_timed ht, Http.exchangeFrom_of_final h hf,
    Http.Exchange.within_of_ends _ (by simp)]

/-- **An exchange never ends exactly if its time is not limited and one of its requests is left without a
reply.** -/
theorem exchange_unending_iff :
    (∃ url, (c.exchange server seen request).result = .error (.unending url)) ↔
      c.timeout = none ∧ Http.FallsSilent server Http.maxRedirects seen request := by
  by_cases ht : c.timeout = some 0
  · rw [exchange_of_untimed ht, ht]
    exact iff_of_false nofun nofun
  · rw [exchange_of_timed ht, ← Http.exchangeFrom_unending_iff request.url, ← exists_and_left]
    exact exists_congr fun url => Http.Exchange.within_unending_iff c.timeout

end Timed

end Client

/-! ## Calls that fail -/

/-- An error that a call can end with, and the exit code that it leads to. -/
inductive ProbeError.CallFails : ProbeError → Nat → Prop where
  | transport {fault : TransportFault} (h : ∀ url, fault ≠ .unending url) :
      CallFails (.transport fault) 2
  | httpStatus (status : Nat) (body : String) : CallFails (.httpStatus status body) 1
  | decode (message : String) : CallFails (.decode message) 1

/-- The errors that a call can end with, without their exit codes. -/
def ProbeError.IsCall (e : ProbeError) : Prop := e.CallFails e.exitCode

open ProbeError

theorem ProbeError.CallFails.ne_three {e : ProbeError} {n : Nat} (h : e.CallFails n) : n ≠ 3 := by
  cases h <;> decide

theorem ProbeError.CallFails.unique {e : ProbeError} {n m : Nat} (h : e.CallFails n)
    (h' : e.CallFails m) : n = m := by
  cases h <;> cases h' <;> rfl

theorem ProbeError.IsCall.not_unending {url : Url} : ¬ (transport (.unending url)).IsCall := by
  rintro (⟨h⟩)
  exact h url rfl

theorem ContentCoding.unpack_fails (body : List UInt8) : FailsWith IsCall (unpack body) := by
  refine .mapError (fun fault => ?_) _
  exact CallFails.decode _

theorem ContentCoding.decode_fails (body : List UInt8) (label : Option (List Char)) :
    FailsWith IsCall (decode body label) := by
  unfold decode
  split
  · exact unpack_fails body
  · split
    · exact unpack_fails body
    · exact .ok body
  · exact .error (CallFails.decode _)

theorem Received.ofResponse_fails (r : Http.Response) : FailsWith IsCall (ofResponse r) := by
  unfold ofResponse
  split
  · exact .error (CallFails.transport (by simp))
  split
  · exact .error (CallFails.httpStatus ..)
  · exact .map (ContentCoding.decode_fails _ _) _

theorem Fetched.ofReceived_fails (r : Received) : FailsWith IsCall (ofReceived r) := by
  unfold ofReceived
  split
  · exact .error (CallFails.decode _)
  · exact .ok _

theorem Fetched.ofResponse_fails (r : Http.Response) : FailsWith IsCall (ofResponse r) :=
  .bind (Received.ofResponse_fails r) Fetched.ofReceived_fails

theorem Submitted.ofResponse_fails (r : Http.Response) : FailsWith IsCall (ofResponse r) :=
  .map (Received.ofResponse_fails r) _

theorem Command.outcome_fails (command : Command) (r : Http.Response) :
    FailsWith IsCall (command.outcome r) := by
  cases command with
  | fetch id => exact .map (Fetched.ofResponse_fails r) _
  | submit id payload => exact .map (Submitted.ofResponse_fails r) _

/-- A call that fails ends with one of these errors, or it never ends. -/
theorem Http.Exchange.reading_fails {α : Type} (x : Exchange)
    {read : Response → Except ProbeError α} (hread : ∀ r, FailsWith IsCall (read r)) :
    FailsWith (fun e => e.IsCall ∨ ∃ url, e = .transport (.unending url)) (x.reading read) := by
  unfold reading
  cases x.result with
  | ok r => exact fun e he => .inl (hread r e he)
  | error fault =>
    refine .error ?_
    by_cases h : ∃ url, fault = .unending url
    · obtain ⟨url, rfl⟩ := h
      exact .inr ⟨url, rfl⟩
    · exact .inl (CallFails.transport fun url hurl => h ⟨url, hurl⟩)

/-- Reading never fails to end. -/
theorem Http.Exchange.reading_unending_iff {α : Type} {x : Exchange}
    {read : Response → Except ProbeError α} (hread : ∀ r, FailsWith IsCall (read r)) :
    (∃ url, x.reading read = .error (.transport (.unending url))) ↔
      ∃ url, x.result = .error (.unending url) := by
  unfold reading
  cases x.result with
  | error fault => simp only [Except.error.injEq, transport.injEq]
  | ok r =>
    refine iff_of_false ?_ (by simp)
    rintro ⟨url, hurl⟩
    exact IsCall.not_unending (hread r _ hurl)

/-! ## Runs -/

section Run

variable {σ : Type} {api : TaskApi σ} {command : Command} {s : σ}

/-- A call that fails leaves the output alone. -/
theorem Command.run_of_error {e : ProbeError} (h : (command.call api s).result = .error e)
    (layout : Json.Layout) (out : Sink) : ∃ events,
      command.run api layout s out = ⟨.error e, events, (command.call api s).state, out⟩ := by
  refine ⟨command.announcement :: (command.call api s).events, ?_⟩
  unfold run
  simp only [h]

/-- A call that succeeds is printed, and its outcome stands if printing works. -/
theorem Command.run_of_ok {o : Outcome} (h : (command.call api s).result = .ok o)
    (layout : Json.Layout) (out : Sink) : ∃ events,
      command.run api layout s out = ⟨(out.print (o.body.write layout)).1.map fun _ => o, events,
        (command.call api s).state, (out.print (o.body.write layout)).2⟩ := by
  unfold run
  simp only [h]
  obtain ⟨printed, out'⟩ := out.print (o.body.write layout)
  cases printed with
  | error e => exact ⟨_, rfl⟩
  | ok u => exact ⟨_, rfl⟩

/-- Printing has no part in what the interface is left with. -/
theorem Command.run_state (layout : Json.Layout) (out : Sink) :
    (command.run api layout s out).state = (command.call api s).state := by
  cases h : (command.call api s).result with
  | error e =>
    obtain ⟨_, hrun⟩ := run_of_error h layout out
    rw [hrun]
  | ok o =>
    obtain ⟨_, hrun⟩ := run_of_ok h layout out
    rw [hrun]

/-- Runs whose calls come to the same differ in nothing but what they note. -/
theorem Command.run_congr {api' : TaskApi σ} {command' : Command} {s' : σ}
    (hr : (command.call api s).result = (command'.call api' s').result)
    (hs : (command.call api s).state = (command'.call api' s').state)
    (layout : Json.Layout) (out : Sink) :
    let step := command.run api layout s out
    let step' := command'.run api' layout s' out
    step.result = step'.result ∧ step.out = step'.out ∧ step.state = step'.state := by
  cases h : (command.call api s).result with
  | error e =>
    obtain ⟨_, hrun⟩ := run_of_error h layout out
    obtain ⟨_, hrun'⟩ := run_of_error (hr ▸ h) layout out
    rw [hrun, hrun']
    exact ⟨rfl, rfl, hs⟩
  | ok o =>
    obtain ⟨_, hrun⟩ := run_of_ok h layout out
    obtain ⟨_, hrun'⟩ := run_of_ok (hr ▸ h) layout out
    rw [hrun, hrun']
    exact ⟨rfl, rfl, hs⟩

end Run

/-! ## Counting calls -/

/-- The interface with a record of the calls made of it, which is part of its state. -/
def TaskApi.recorded {σ : Type} (api : TaskApi σ) : TaskApi (List Command × σ) where
  fetch id s :=
    let c := api.fetch id s.2
    ⟨c.result, c.events, (s.1 ++ [.fetch id], c.state)⟩
  submit id payload s :=
    let c := api.submit id payload s.2
    ⟨c.result, c.events, (s.1 ++ [.submit id payload], c.state)⟩

section Recorded

variable {σ : Type} (api : TaskApi σ) (command : Command) (calls : List Command) (s : σ)

theorem Command.call_recorded : command.call api.recorded (calls, s)
    = ⟨(command.call api s).result, (command.call api s).events,
        (calls ++ [command], (command.call api s).state)⟩ := by
  cases command <;> rfl

/-- Running a command calls the interface exactly once, and with this command. -/
theorem Command.run_recorded (layout : Json.Layout) (out : Sink) :
    let step := command.run api layout s out
    command.run api.recorded layout (calls, s) out
      = ⟨step.result, step.events, (calls ++ [command], step.state), step.out⟩ := by
  dsimp only [run]
  rw [call_recorded]
  obtain ⟨result, events, state⟩ := command.call api s
  cases result with
  | error e => rfl
  | ok o =>
    dsimp only
    obtain ⟨printed, out'⟩ := out.print (o.body.write layout)
    cases printed <;> rfl

end Recorded

end TaskProbe
