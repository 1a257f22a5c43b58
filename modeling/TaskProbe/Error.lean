import TaskProbe.Json.Error
import TaskProbe.Url.Basic

/-!
# Errors of a run

Everything that can go wrong between the command line and the printed answer. An error belongs to a
category, the category has a severity and the severity an exit code. For the person at the terminal
there is a message and a suggestion.
-/

namespace TaskProbe

/-- How an exchange with the server can fail before a complete answer is there. A URL is given where
the message names one. -/
inductive TransportFault where
  /-- Nobody listens. -/
  | refused (url : Url)
  /-- No answer in the time allowed. -/
  | timedOut (url : Url)
  /-- The connection was closed without an answer. -/
  | closed (url : Url)
  /-- No answer, and no limit to the time: the exchange never ends, and nothing comes after it. -/
  | unending (url : Url)
  /-- One redirect too many, answered by this URL. -/
  | tooManyRedirects (url : Url)
  /-- A redirect to a place that no request can go to. -/
  | unreachableScheme (url : Url)
  /-- The body of the answer is shorter than declared. -/
  | truncatedBody
  deriving DecidableEq, Repr

/-- What went wrong, followed by the URL. -/
def withUrl (text : String) (url : Url) : String :=
  text ++ " for url (" ++ String.ofList url.write ++ ")"

/-- The fault in words. -/
def TransportFault.message : TransportFault → String
  | .refused url | .timedOut url | .closed url | .unending url => withUrl "error sending request" url
  | .tooManyRedirects url => withUrl "error following redirect" url
  | .unreachableScheme url => withUrl "builder error" url
  | .truncatedBody => "error decoding response body"

/-- An error of a run. -/
inductive ProbeError where
  | transport (fault : TransportFault)
  | io (message : String)
  | serialization (error : Json.Error)
  | httpStatus (status : Nat) (body : String)
  | decode (message : String)
  | serverReported (errno : Int) (message : String)
  | config (message : String)
  | invalidValue (field value reason : String)
  | invalidConfig (field message : String)
  deriving DecidableEq, Repr

/-- The part of the world that an error comes from. -/
inductive Category where
  | network
  | protocol
  | server
  | configuration
  | system
  deriving DecidableEq, Repr

/-- How bad an error is. -/
inductive Severity where
  | low
  | medium
  | high
  | critical
  deriving DecidableEq, Repr

/-- The name of a category. -/
def Category.name : Category → String
  | .network => "Network"
  | .protocol => "Protocol"
  | .server => "Server"
  | .configuration => "Configuration"
  | .system => "System"

/-- The name of a severity. -/
def Severity.name : Severity → String
  | .low => "Low"
  | .medium => "Medium"
  | .high => "High"
  | .critical => "Critical"

/-- The code that a run ends with. -/
def Severity.exitCode : Severity → Nat
  | .low => 0
  | .medium => 2
  | .high => 1
  | .critical => 3

namespace ProbeError

/-- The text of an integer. -/
def intText (n : Int) : String := String.ofList (Text.decimalInt n)

/-- The text of a natural number. -/
def natText (n : Nat) : String := String.ofList (Text.decimal n)

/-- The error in full. -/
def message : ProbeError → String
  | .transport fault => "API request failed: " ++ fault.message
  | .io message => "IO error: " ++ message
  | .serialization error => "Serialization error: " ++ error.message
  | .httpStatus status body => "Server answered with HTTP " ++ natText status ++ ": " ++ body
  | .decode message => "Response decoding error: " ++ message
  | .serverReported errno message =>
    "Server reported errno " ++ intText errno ++ ": " ++ message
  | .config message => "Configuration error: " ++ message
  | .invalidValue field value reason =>
    "Invalid value for '" ++ field ++ "' (" ++ value ++ "): " ++ reason
  | .invalidConfig field message =>
    "Configuration validation failed for '" ++ field ++ "': " ++ message

/-- The category of an error. -/
def category : ProbeError → Category
  | .transport _ => .network
  | .httpStatus .. | .decode _ | .serialization _ => .protocol
  | .serverReported .. => .server
  | .config _ | .invalidValue .. | .invalidConfig .. => .configuration
  | .io _ => .system

/-- The severity of an error, which its category decides. -/
def severity (e : ProbeError) : Severity :=
  match e.category with
  | .network => .medium
  | .protocol | .server => .high
  | .configuration | .system => .critical

/-- Whether the error stands for an exchange that never ends, so that it is never reported. -/
def isUnending : ProbeError → Bool
  | .transport (.unending _) => true
  | _ => false

/-- The code that a run with this error ends with. -/
def exitCode (e : ProbeError) : Nat := e.severity.exitCode

/-- What the person at the terminal can do about it. -/
def suggestion : ProbeError → String
  | .transport (.timedOut _) =>
    "The server did not answer in time; raise --timeout-secs or check server load"
  | .transport (.refused _) => "Make sure the file-compare server is running on 127.0.0.1:8888"
  | .transport _ => "Check network connectivity to the task server"
  | .httpStatus status _ =>
    if status = 404 then "Check that the task id exists on the server"
    else "Inspect the server log for the failed request"
  | .decode _ | .serialization _ => "The server returned a body that is not valid (gzip) JSON"
  | .serverReported .. => "The task server rejected or failed the task; see the errno message"
  | .io _ => "Check that the file exists and is readable"
  | .config _ | .invalidValue .. | .invalidConfig .. =>
    "Fix the command line arguments or the TOML config file"

/-- The error for the person at the terminal. -/
def friendly : ProbeError → String
  | .transport (.refused _) => "Could not connect to the task server"
  | .transport (.timedOut _) => "Request to the task server timed out"
  | .httpStatus status _ => "Task server answered with HTTP status " ++ natText status
  | .serverReported errno message =>
    if message.isEmpty then "Task server reported error " ++ intText errno
    else "Task server reported error " ++ intText errno ++ ": " ++ message
  | e => e.message

end ProbeError

end TaskProbe
