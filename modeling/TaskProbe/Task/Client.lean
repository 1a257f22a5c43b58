import TaskProbe.Config.Settings
import TaskProbe.ContentCoding
import TaskProbe.Http.Exchange
import TaskProbe.Http.Status
import TaskProbe.Task.Api

/-!
# The client

Calls of the task server over HTTP. A task lies at its base URL, below `task`. What a response says is
a function of the response alone (`Received.ofResponse`, `Fetched.ofResponse`,
`Submitted.ofResponse`); a call is one exchange followed by that function.

A response that reports no success is an error with its status, whatever its body is like.
-/

namespace TaskProbe

/-! ## Responses -/

/-- The greatest number of characters in a snippet. -/
def maxSnippet : Nat := 512

/-- The start of a body as text, for messages. -/
def snippet (data : List UInt8) : List Char := (Text.Utf8.lossy data).take maxSnippet

/-- What a successful response holds, unpacked. -/
structure Received where
  status : Nat
  contentEncoding : Option (List Char)
  data : List UInt8
  deriving DecidableEq, Repr

/-- The body of a response as far as it can be unpacked. -/
def unpackedOrRaw (r : Http.Response) : List UInt8 :=
  match ContentCoding.decode r.body r.contentEncoding with
  | .ok data => data
  | .error _ => r.body

/-- Reads a response. -/
def Received.ofResponse (r : Http.Response) : Except ProbeError Received :=
  if !r.complete then .error (.transport .truncatedBody)
  else if !r.isSuccess then
    .error (.httpStatus r.status (String.ofList (snippet (unpackedOrRaw r))))
  else
    (ContentCoding.decode r.body r.contentEncoding).map fun data =>
      ⟨r.status, r.contentEncoding, data⟩

/-- An optional text as the log shows it. -/
def shownOption : Option (List Char) → String
  | some s => "Some(" ++ String.ofList (Text.quoted s) ++ ")"
  | none => "None"

/-- What reading a response notes. -/
def Received.events (r : Http.Response) : List Log.Event :=
  if !r.complete then []
  else
    ⟨.debug, .client, "Response status: " ++ ProbeError.natText r.status ++ " "
      ++ Http.phrase r.status ++ ", encoding: " ++ shownOption r.contentEncoding ++ ", "
      ++ ProbeError.natText r.body.length ++ " bytes on the wire"⟩
      :: ContentCoding.events r.body r.contentEncoding

/-- The task in a response, whose body must be JSON. -/
def Fetched.ofReceived (r : Received) : Except ProbeError Fetched :=
  match Json.parse r.data with
  | .error e =>
    .error (.decode ("body is not JSON (" ++ e.message ++ "): " ++ String.ofList (snippet r.data)))
  | .ok body =>
    .ok ⟨r.status, r.contentEncoding.map String.ofList, body, ServerError.ofBody body⟩

/-- The task in a response. -/
def Fetched.ofResponse (r : Http.Response) : Except ProbeError Fetched := do
  Fetched.ofReceived (← Received.ofResponse r)

/-- What reading a task notes. -/
def Fetched.events (id : TaskId) (task : Fetched) : List Log.Event :=
  ServerError.events task.body
    ++ match task.serverError with
      | some e =>
        [⟨.warn, .client, "⚠️ Task " ++ id.toString ++ " errno:" ++ ProbeError.intText e.errno
          ++ ", errmsg:" ++ e.message⟩]
      | none => []

/-- The answer to a document. A body that is no JSON is plain text. -/
def Submitted.ofReceived (r : Received) : Submitted :=
  match Json.parse r.data with
  | .ok body => ⟨r.status, body⟩
  | .error _ => ⟨r.status, .string (String.ofList (Text.Utf8.lossy r.data))⟩

/-- The answer to a document in a response. -/
def Submitted.ofResponse (r : Http.Response) : Except ProbeError Submitted :=
  (Received.ofResponse r).map Submitted.ofReceived

/-! ## Requests -/

/-- A client: where the server is, whether documents are compressed, and the time allowed for an
exchange in seconds. -/
structure Client where
  base : Url
  compress : Bool
  timeout : Option Nat
  deriving DecidableEq, Repr

namespace Client

/-- Where the server is when nothing else is said. -/
def defaultServer : String := "http://127.0.0.1:8888"

/-- A client for the server at a base URL. -/
def ofSettings [Url.Idna] (base : String) (settings : Config.Settings) : Except ProbeError Client :=
  (require "base_url" base (Rule.url base.toList)).map fun url =>
    ⟨url, settings.compressRequests, settings.timeoutSeconds⟩

/-- The URL of a task. -/
def taskUrl (c : Client) (id : TaskId) : Url :=
  { c.base with path := (c.base.path.dropEmptyLast.push "task".toList).push id.text }

/-- The URL of a task as requests carry it, without user name and password. -/
def requestUrl (c : Client) (id : TaskId) : Url :=
  { c.taskUrl id with username := [], password := [] }

/-- The request for a task. -/
def fetchRequest (c : Client) (id : TaskId) : Http.Request where
  method := .get
  url := c.requestUrl id
  contentType := some "application/json"
  acceptEncoding := some "gzip"

/-- The request that submits a document. -/
def submitRequest [Gzip.Deflater] (c : Client) (id : TaskId) (payload : Json.Value) : Http.Request :=
  let plain := Text.Utf8.encode payload.compact.toList
  { method := .post
    url := c.requestUrl id
    contentType := some "application/json"
    acceptEncoding := some "gzip"
    contentEncoding := if c.compress then some "gzip" else none
    body := if c.compress then Gzip.pack plain else plain }

/-- An exchange in the time allowed; if that is no time at all, nothing is sent. -/
def exchange [Url.Idna] (c : Client) (server : Http.Server) (seen : List Http.Request)
    (request : Http.Request) : Http.Exchange :=
  if c.timeout = some 0 then ⟨.error (.timedOut request.url), seen⟩
  else Http.exchange server c.timeout seen request

/-! ## Calls -/

/-- What a response read by `read` gives, with what is noted about it. -/
def callOf {α : Type} (announced : Log.Event) (x : Http.Exchange)
    (read : Http.Response → Except ProbeError α) (events : α → List Log.Event) :
    Call (List Http.Request) α :=
  match x.result with
  | .error fault => ⟨.error (.transport fault), [announced], x.seen⟩
  | .ok r =>
    let result := read r
    let more :=
      match result with
      | .ok a => events a
      | .error _ => []
    ⟨result, announced :: Received.events r ++ more, x.seen⟩

/-- Fetches a task. -/
def fetch [Url.Idna] (c : Client) (server : Http.Server) (id : TaskId) (seen : List Http.Request) :
    Call (List Http.Request) Fetched :=
  callOf ⟨.debug, .client, "GET " ++ String.ofList (c.taskUrl id).write⟩
    (c.exchange server seen (c.fetchRequest id)) Fetched.ofResponse (Fetched.events id)

/-- Submits a document to a task. -/
def submit [Url.Idna] [Gzip.Deflater] (c : Client) (server : Http.Server) (id : TaskId)
    (payload : Json.Value) (seen : List Http.Request) : Call (List Http.Request) Submitted :=
  let request := c.submitRequest id payload
  callOf ⟨.debug, .client, "POST " ++ String.ofList (c.taskUrl id).write ++ " ("
      ++ ProbeError.natText request.body.length ++ " bytes)"⟩
    (c.exchange server seen request) Submitted.ofResponse fun _ => []

/-- The interface of a client to a server; its state is what the server has seen. -/
def api [Url.Idna] [Gzip.Deflater] (c : Client) (server : Http.Server) : TaskApi (List Http.Request) where
  fetch := c.fetch server
  submit := c.submit server

end Client

end TaskProbe
