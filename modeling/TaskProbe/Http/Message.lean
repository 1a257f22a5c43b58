import TaskProbe.Text.Blank
import TaskProbe.Text.Utf8
import TaskProbe.Url.Parser

/-!
# Requests and responses

What goes over the wire: a request, and the response to it as far as it arrived. A field of a
response is looked up without regard to the case of its name, and of several fields of one name the
first counts.
-/

namespace TaskProbe.Http

/-- What a request asks for. -/
inductive Method where
  | get
  | post
  deriving DecidableEq, Repr

/-- The name of a method. -/
def Method.name : Method → String
  | .get => "GET"
  | .post => "POST"

/-- A request. -/
structure Request where
  method : Method
  url : Url
  contentType : Option String := none
  acceptEncoding : Option String := none
  contentEncoding : Option String := none
  body : List UInt8 := []
  deriving DecidableEq, Repr

/-- A response; `complete` says whether all of its body arrived. -/
structure Response where
  status : Nat
  fields : List (String × List UInt8) := []
  body : List UInt8 := []
  complete : Bool := true
  deriving DecidableEq, Repr

namespace Response

/-- Whether the status says that the request succeeded. -/
def isSuccess (r : Response) : Bool := 200 ≤ r.status && r.status < 300

/-- A byte of the blanks around the value of a field. -/
def isFieldBlank (b : UInt8) : Bool := b == 0x20 || b == 0x09

/-- The value of a field without the blanks around it. -/
def field? (r : Response) (name : String) : Option (List UInt8) :=
  (r.fields.find? fun f => Text.lowerAscii f.1.toList == Text.lowerAscii name.toList).map fun f =>
    ((f.2.dropWhile isFieldBlank).reverse.dropWhile isFieldBlank).reverse

/-- A byte that stands for a character of a text field: visible ASCII, a space or a tab. -/
def isTextByte (b : UInt8) : Bool := b == 0x09 || (0x20 ≤ b && b ≤ 0x7E)

/-- The value of a field that is text. -/
def textField? (r : Response) (name : String) : Option (List Char) :=
  ((r.field? name).filter (·.all isTextByte)).map (·.map fun b => Char.ofNat b.toNat)

/-- How the body is packed, as far as the response says so. -/
def contentEncoding (r : Response) : Option (List Char) := r.textField? "Content-Encoding"

/-! ## Redirects -/

/-- Whether the status sends the client elsewhere. -/
def isRedirect (r : Response) : Bool := [301, 302, 303, 307, 308].contains r.status

/-- Where the response sends a client that asked `url`; nowhere if the place cannot be read. -/
def target? [Url.Idna] (r : Response) (url : Url) : Option Url :=
  if r.isRedirect then
    ((r.field? "Location").bind Text.Utf8.decode?).bind fun place => (url.join place).toOption
  else none

end Response

/-- Whether a redirect with this status loses the body of a request: always after 303, and after 301
and 302 when it was posted. -/
def losesBody (method : Method) (status : Nat) : Bool :=
  status == 303 || (method == .post && (status == 301 || status == 302))

/-- The request that follows a redirect. -/
def Request.redirected (q : Request) (status : Nat) (target : Url) : Request :=
  if losesBody q.method status then
    { q with method := .get, url := target, contentType := none, contentEncoding := none, body := [] }
  else { q with url := target }

end TaskProbe.Http
