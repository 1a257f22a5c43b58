import TaskProbe.Error
import TaskProbe.Gzip.Member
import TaskProbe.Log.Event
import TaskProbe.Text.Blank

/-!
# Content codings

How the body of a reply is packed. A reply names its coding in a label; one that names none may be
packed with gzip all the same, which the first two bytes show.
-/

namespace TaskProbe

/-- The way a body is packed, as its label says. -/
inductive ContentCoding where
  | gzip
  | identity
  | unknown (label : List Char)
  deriving DecidableEq, Repr

namespace ContentCoding

/-- Reads a label: blanks around it and the case of its ASCII letters do not matter, and no label is
the same as an empty one. -/
def ofLabel (label : Option (List Char)) : ContentCoding :=
  let label := Text.lowerAscii (Text.trim (label.getD []))
  if label = "gzip".toList ∨ label = "x-gzip".toList then .gzip
  else if label = [] ∨ label = "identity".toList then .identity
  else .unknown label

/-- Data that gzip has packed, as data again. -/
def unpack (data : List UInt8) : Except ProbeError (List UInt8) :=
  (Gzip.gunzip data).mapError fun fault =>
    .decode ("gzip decompression failed: " ++ fault.message)

/-- The body as it was before it was packed. -/
def decode (data : List UInt8) (label : Option (List Char)) : Except ProbeError (List UInt8) :=
  match ofLabel label with
  | .gzip => unpack data
  | .identity => if Gzip.isGzip data then unpack data else .ok data
  | .unknown label => .error (.decode ("unsupported Content-Encoding: " ++ String.ofList label))

/-- Notes that a body is unpacked although its label does not say so. -/
def events (data : List UInt8) (label : Option (List Char)) : List Log.Event :=
  if ofLabel label = .identity ∧ Gzip.isGzip data then
    [⟨.debug, .coding, "Body carries gzip magic without Content-Encoding, decompressing"⟩]
  else []

end ContentCoding

end TaskProbe
