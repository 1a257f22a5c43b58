import TaskProbe.Error
import TaskProbe.Http.Message

/-!
# Exchanges

A server answers each request, knowing all requests before it. An exchange sends one request and
follows redirects, four of them at most; whatever the server does, no more than five requests are
sent. Each request is added to those that the server has seen.

A server may also leave a request without any reply. The exchange ends then if its time is limited
(`Exchange.within`), and never ends otherwise.
-/

namespace TaskProbe.Http

/-- What comes back for a request. -/
inductive Reply where
  | answer (r : Response)
  /-- Nobody takes the connection, so nobody sees the request. -/
  | refused
  /-- The connection is closed without an answer. -/
  | closed
  /-- Nothing comes, or an answer that is begun is not finished, for as long as the client waits: for
  its time if that is limited, else for ever. -/
  | silence
  deriving DecidableEq, Repr, Inhabited

/-- How the other end replies, given all requests so far, the latest one last. -/
abbrev Server := List Request → Reply

/-- What an exchange gives, and all requests that the server has seen after it. -/
structure Exchange where
  result : Except TransportFault Response
  seen : List Request

/-- The greatest number of redirects that are followed. -/
def maxRedirects : Nat := 4

/-- Sends a request, with some redirects left to be followed, and waits for each reply without a limit.
Faults name the URL that was asked for at first, but for those that a redirect brings about. -/
def exchangeFrom [Url.Idna] (server : Server) (origin : Url) (redirects : Nat) (before : List Request)
    (request : Request) : Exchange :=
  let seen := before ++ [request]
  match server seen with
  | .refused => ⟨.error (.refused origin), before⟩
  | .closed => ⟨.error (.closed origin), seen⟩
  | .silence => ⟨.error (.unending origin), seen⟩
  | .answer response =>
    match response.target? request.url with
    | none => ⟨.ok response, seen⟩
    | some target =>
      match redirects with
      | 0 => ⟨.error (.tooManyRedirects request.url), seen⟩
      | redirects + 1 =>
        if target.isWeb then
          exchangeFrom server origin redirects seen (request.redirected response.status target)
        else ⟨.error (.unreachableScheme target), seen⟩

/-- The exchange in the time allowed, if there is a limit: what would never end is broken off. -/
def Exchange.within (limit : Option Nat) (x : Exchange) : Exchange :=
  match limit, x.result with
  | some _, .error (.unending url) => { x with result := .error (.timedOut url) }
  | _, _ => x

/-- Sends a request and follows redirects, in the time allowed. -/
def exchange [Url.Idna] (server : Server) (limit : Option Nat) (seen : List Request)
    (request : Request) : Exchange :=
  (exchangeFrom server request.url maxRedirects seen request).within limit

end TaskProbe.Http
