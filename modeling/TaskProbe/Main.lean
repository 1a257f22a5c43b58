import Std.Async.DNS
import Std.Async.System
import Std.Async.TCP
import Std.Async.Timer
import TaskProbe.Builtin
import TaskProbe.Http.Wire
import TaskProbe.Program

/-!
# The program at a terminal

Reads what a run depends on and writes what it leaves behind; the run itself is `Program.run`. The
server is asked one request at a time: a run is made with the replies so far, and if it sends one
request more than there are replies, that request is sent and its reply added.
-/

namespace TaskProbe.Terminal

open Std.Async
open scoped Builtin

/-! ## Files -/

/-- The fault that an error of the system stands for. -/
def fileFault : IO.Error → FileFault
  | .noFileOrDirectory .. => .missing
  | .inappropriateType _ code text => .other text code.toNat
  | .permissionDenied _ code text => .other text code.toNat
  | .resourceExhausted _ code text => .other text code.toNat
  | .invalidArgument _ code text => .other text code.toNat
  | .hardwareFault code text => .other text code.toNat
  | .otherError code text => .other text code.toNat
  | e => .other (toString e) 0

/-- What reading a path gives. -/
def readPath (path : String) : IO (Except FileFault (List UInt8)) := do
  if path.contains '\x00' then return .error .nulInName
  match ← (IO.FS.readBinFile path).toBaseIO with
  | .ok data => return .ok data.toList
  | .error e => return .error (fileFault e)

/-- What reading each of some paths gives. -/
def readPaths (paths : List String) : IO Files := do
  let contents ← paths.mapM fun path => do return (path.toList, ← readPath path)
  return fun path => (contents.lookup path).getD (.error .missing)

/-! ## The server -/

/-- The addresses of a host, each with a port. -/
def addresses (host : Url.Host) (port : Nat) : Async (List Std.Net.SocketAddress) := do
  let name :=
    match host with
    | .ipv6 _ => ((host.write.drop 1).dropLast)
    | _ => host.write
  let found ← DNS.getAddrInfo (String.ofList name) (toString port)
  return found.toList.map fun
    | .v4 address => .v4 ⟨address, port.toUInt16⟩
    | .v6 address => .v6 ⟨address, port.toUInt16⟩

/-- A connection to the first address that takes one. -/
def connect? : List Std.Net.SocketAddress → Async (Option TCP.Socket.Client)
  | [] => return none
  | address :: more => do
    let socket ← TCP.Socket.Client.mk
    try
      socket.connect address
      return some socket
    catch _ => connect? more

/-- Everything that comes over a connection until it is closed. -/
partial def receive (socket : TCP.Socket.Client) (sofar : ByteArray) : Async ByteArray := do
  let next ← try socket.recv? 65536 catch _ => pure none
  match next with
  | some data => receive socket (sofar ++ data)
  | none => return sofar

/-- Sends a request and gives the reply. Servers that want an encrypted connection are refused. -/
def send (request : Http.Request) : Async Http.Reply := do
  match request.url.scheme == Url.http, request.url.host with
  | true, some host =>
    let places ← try addresses host (request.url.port.getD 80) catch _ => pure []
    match ← connect? places with
    | none => return .refused
    | some socket =>
      try
        socket.send (ByteArray.mk request.write.toArray)
        return .ofBytes (← receive socket .empty).toList
      catch _ => return .closed
  | _, _ => return .refused

/-- Sends a request and gives the reply, or silence if it does not come within some seconds. -/
def ask (timeout : Option Nat) (request : Http.Request) : IO Http.Reply :=
  Async.block do
    match timeout with
    | none => send request
    | some seconds =>
      Async.race (send request) do
        sleep (Std.Time.Millisecond.Offset.ofNat (1000 * seconds))
        return .silence

/-! ## Runs -/

/-- A server that has given some replies, and no more. -/
def serverOf (replies : List Http.Reply) : Http.Server := fun seen =>
  (replies[seen.length - 1]?).getD .silence

/-- Makes a run, asking the server for one more reply as often as there is one to be asked for. -/
partial def converse (timeout : Option Nat) (run : Http.Server → Program.Report)
    (replies : List Http.Reply) : IO Program.Report := do
  let report := run (serverOf replies)
  match report.requests[replies.length]? with
  | some request => converse timeout run (replies ++ [← ask timeout request])
  | none => return report

/-- The text of a note. -/
def noteText (form : Log.Form) : Program.Note → String
  | .line text => text
  | .logged event => event.line form

/-- Writes what a run leaves behind. -/
def write (report : Program.Report) : IO Unit := do
  let out ← IO.getStdout
  out.write (ByteArray.mk report.out.written.toArray)
  out.flush
  for note in report.notes do
    IO.eprintln (noteText report.form note)

/-- The text for someone who asks for help. -/
def help : String :=
  "Usage: task-probe [OPTIONS] [TASK_ID]\n\n"
    ++ "Fetches a task from its server and prints it, or submits a document to it.\n\n"
    ++ "Options:\n"
    ++ "      --submit <FILE>          submit the JSON document in FILE\n"
    ++ "      --compact                print on one line\n"
    ++ "      --no-compress            submit without compression\n"
    ++ "      --timeout-secs <SECS>    the time allowed for an exchange, 1 to 3600\n"
    ++ "  -c, --config <FILE>          read settings from a TOML file\n"
    ++ "      --log-json               write the log as JSON\n"
    ++ "  -v, --verbose                log more\n"
    ++ "  -h, --help                   show this text\n"

/-- What is wrong with arguments. -/
def usageText : CommandLine.UsageFault → String
  | .unknownArgument => "unexpected argument"
  | .missingValue => "an option needs a value"
  | .malformedValue => "an option has a malformed value"
  | .repeatedOption => "an option is given twice"
  | .unneededValue => "an option takes no value"
  | .helpAsked => help

/-- Runs the program with its arguments, and gives its exit code. What is asked here replies sooner or
later, so the run ends. -/
def start (arguments : List String) : IO UInt32 := do
  match CommandLine.parse arguments with
  | .error .helpAsked =>
    IO.print help
    return CommandLine.UsageFault.helpAsked.exitCode.toUInt32
  | .error fault =>
    IO.eprintln ("error: " ++ usageText fault)
    return fault.exitCode.toUInt32
  | .ok line =>
    let files ← readPaths (line.config.toList ++ line.submit.toList)
    let values ← System.getEnv
    let env : Config.Environment := values.get?
    let timeout := (line.settings files env).toOption.bind (·.timeoutSeconds)
    let report ← converse timeout (fun server => Program.runLine line { files, env, server }) []
    write report
    return (report.exitCode.getD 0).toUInt32

end TaskProbe.Terminal

/-- The program. -/
def main (arguments : List String) : IO UInt32 := TaskProbe.Terminal.start arguments
