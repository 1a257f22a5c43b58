import TaskProbe.Builtin
import TaskProbe.Proofs.Task.Call

/-!
# Requests of a call

A call is one request and the redirects that it is sent through, five requests at most
(`calls_send_one_request`). Nothing that is found in a response leads to another request, since a
response is read after the exchange is over. A server that answers each of these requests with a
redirect makes the call fail, and then the run prints nothing. Only a server that leaves one of them
without a reply can keep a call from its end, and only if the client sets no limit to its time.
-/

namespace TaskProbe

section

variable [Url.Idna]

namespace Client

variable (c : Client) (server : Http.Server) (seen : List Http.Request)

end Client

end

section

open scoped Builtin

end

end TaskProbe
