import TaskProbe.Http.Exchange

/-!
# Messages on the wire

The written form of requests and responses in HTTP/1.1, with one exchange for each connection. The
connection is closed after the response, so a response is read from everything that came before. Its
body has the declared length, or comes in chunks up to an empty one, or goes on to the end.

The loops over lines end because each line takes at least its end off the text (`takeLine_length`).
-/

namespace TaskProbe.Http

/-! ## Requests -/

namespace Request

/-- The server that a request goes to, with its port unless that goes without saying. -/
def host (q : Request) : String :=
  match q.url.host with
  | some host => String.ofList (host.write ++ q.url.writePort)
  | none => ""

/-- What a request asks the server for. -/
def target (q : Request) : String := String.ofList (q.url.path.write ++ q.url.writeQuery)

/-- The fields of a request. -/
def fields (q : Request) : List (String × String) :=
  [("Host", q.host), ("Accept", "*/*"), ("Connection", "close"),
      ("Content-Length", ProbeError.natText q.body.length)]
    ++ [("Content-Type", q.contentType), ("Accept-Encoding", q.acceptEncoding),
        ("Content-Encoding", q.contentEncoding)].filterMap fun (name, value) => value.map (name, ·)

/-- A request as it is sent. -/
def write (q : Request) : List UInt8 :=
  let lines := (q.method.name ++ " " ++ q.target ++ " HTTP/1.1")
    :: q.fields.map fun (name, value) => name ++ ": " ++ value
  Text.Utf8.encode ((lines.map fun line => line ++ "\r\n").flatMap String.toList ++ ['\r', '\n'])
    ++ q.body

end Request

/-! ## Lines -/

/-- The first line, without its end, and what follows it. -/
def takeLine (data : List UInt8) : Option (List UInt8 × List UInt8) :=
  match data.dropWhile (· != 0x0A) with
  | [] => none
  | _ :: rest =>
    let line := data.takeWhile (· != 0x0A)
    some (if line.getLast? = some 0x0D then line.dropLast else line, rest)

theorem takeLine_length {data : List UInt8} {x : List UInt8 × List UInt8}
    (h : takeLine data = some x) : x.2.length < data.length := by
  have hs := (List.dropWhile_sublist (· != (0x0A : UInt8)) (l := data)).length_le
  unfold takeLine at h
  split at h
  · cases h
  · next hr =>
    rw [hr, List.length_cons] at hs
    cases h
    dsimp only
    omega

/-- Bytes as characters of the same numbers. -/
def asChars (data : List UInt8) : List Char := data.map fun b => Char.ofNat b.toNat

/-- The status in the first line of a response: three digits after the version. -/
def statusOf? (line : List UInt8) : Option Nat :=
  Text.readDigits? 10 (((asChars line).dropWhile (· ≠ ' ')).drop 1 |>.take 3)

/-- A field: its name, a colon and its value. -/
def fieldOf? (line : List UInt8) : Option (String × List UInt8) :=
  match line.dropWhile (· != 0x3A) with
  | [] => none
  | _ :: value => some (String.ofList (asChars (line.takeWhile (· != 0x3A))), value)

/-- The fields up to the empty line, and what follows it. -/
def takeFields (data : List UInt8) : Option (List (String × List UInt8) × List UInt8) :=
  match _h : takeLine data with
  | none => none
  | some ([], rest) => some ([], rest)
  | some (line, rest) =>
    match fieldOf? line, takeFields rest with
    | some field, some (fields, body) => some (field :: fields, body)
    | _, _ => none
termination_by data.length
decreasing_by exact takeLine_length _h

/-! ## Bodies -/

/-- The number of bytes in a chunk, from the line before it. -/
def chunkSize? (line : List UInt8) : Option Nat :=
  Text.readDigits? 16 (Text.trim ((asChars line).takeWhile (· ≠ ';')))

/-- A body in chunks, as far as it came, and whether the chunk that ends it was there. -/
def takeChunks (data : List UInt8) : List UInt8 × Bool :=
  match _h : takeLine data with
  | none => ([], false)
  | some (line, rest) =>
    match chunkSize? line with
    | none => ([], false)
    | some 0 => ([], true)
    | some size =>
      let (more, complete) := takeChunks (rest.drop (size + 2))
      (rest.take size ++ more, complete)
termination_by data.length
decreasing_by
  have := takeLine_length _h
  simp only [List.length_drop] at *
  omega

/-- Whether a response with the status never has a body. -/
def isBodiless (status : Nat) : Bool := status == 204 || status == 304

namespace Response

/-- The response with its body, from all that came after its fields. -/
def withBody (r : Response) (rest : List UInt8) : Response :=
  if isBodiless r.status then r
  else if (r.textField? "Transfer-Encoding").isSome then
    let (body, complete) := takeChunks rest
    { r with body, complete }
  else
    match (r.textField? "Content-Length").bind (Text.readDigits? 10) with
    | some size => { r with body := rest.take size, complete := size ≤ rest.length }
    | none => { r with body := rest }

/-- Reads a response from all that came over a connection. -/
def read? (data : List UInt8) : Option Response := do
  let (line, rest) ← takeLine data
  let status ← statusOf? line
  let (fields, rest) ← takeFields rest
  some (withBody { status, fields } rest)

end Response

/-- The reply that came over a connection: none if it is no whole head of a response. -/
def Reply.ofBytes (data : List UInt8) : Reply :=
  match Response.read? data with
  | some r => .answer r
  | none => .closed

end TaskProbe.Http
