import TaskProbe.Text.Digits
import TaskProbe.Text.Utf8

/-!
# Percent encoding

The sets of characters that the parts of a URL cannot hold as they are, the encoding of a text for
one of these sets, and the decoding to bytes. Characters outside ASCII are always encoded.
-/

namespace TaskProbe.Url

/-! ## Sets of characters -/

/-- Control characters and everything outside ASCII. -/
def controlSet (c : Char) : Bool := c.toNat < 0x20 || 0x7E < c.toNat

/-- What a fragment cannot hold. -/
def fragmentSet (c : Char) : Bool :=
  controlSet c || c == ' ' || c == '"' || c == '<' || c == '>' || c == '\x60'

/-- What a path cannot hold. -/
def pathSet (c : Char) : Bool :=
  fragmentSet c || c == '#' || c == '?' || c == '\x7b' || c == '\x7d'

/-- What one segment put into a path cannot hold. -/
def segmentSet (c : Char) : Bool := pathSet c || c == '/' || c == '%' || c == '\\'

/-- What a user name or a password cannot hold. -/
def userInfoSet (c : Char) : Bool :=
  pathSet c || c == '/' || c == ':' || c == ';' || c == '=' || c == '@' || c == '[' || c == '\\'
    || c == ']' || c == '^' || c == '|'

/-- What a query cannot hold. -/
def querySet (c : Char) : Bool :=
  controlSet c || c == ' ' || c == '"' || c == '#' || c == '<' || c == '>'

/-- What the query of a special URL cannot hold. -/
def specialQuerySet (c : Char) : Bool := querySet c || c == '\''

/-! ## Encoding -/

/-- A byte as `%` and two hexadecimal digits. -/
def percentByte (b : UInt8) : List Char := '%' :: Text.upperHexByte b

/-- A character, encoded if it is in the set. -/
def percentChar (set : Char → Bool) (c : Char) : List Char :=
  if set c then (Text.Utf8.encodeChar c).flatMap percentByte else [c]

/-- A text with the characters of the set encoded. -/
def percentEncode (set : Char → Bool) (s : List Char) : List Char := s.flatMap (percentChar set)

/-! ## Decoding -/

/-- The bytes of a text in which `%` and two hexadecimal digits stand for one byte. -/
def percentDecode : List Char → List UInt8
  | '%' :: a :: b :: rest =>
    match Text.hexValue? a, Text.hexValue? b with
    | some x, some y => (x * 16 + y).toUInt8 :: percentDecode rest
    | _, _ => Text.Utf8.encodeChar '%' ++ percentDecode (a :: b :: rest)
  | c :: rest => Text.Utf8.encodeChar c ++ percentDecode rest
  | [] => []

end TaskProbe.Url
