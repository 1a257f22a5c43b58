import TaskProbe.Url.Host

/-!
# URLs

A URL in its parts, and its written form. The path of a URL with a host is a list of segments; the
path of a URL such as `mailto:` is one opaque text.
-/

namespace TaskProbe

/-- The path of a URL. -/
inductive Url.Path where
  | opaqueText (text : List Char)
  | segments (list : List (List Char))
  deriving DecidableEq, Repr

/-- A URL. Every part but the scheme and the path may be missing; user name and password are empty
then. The port is none where it is the one of the scheme. -/
structure Url where
  scheme : List Char
  username : List Char := []
  password : List Char := []
  host : Option Url.Host := none
  port : Option Nat := none
  path : Url.Path := .segments []
  query : Option (List Char) := none
  fragment : Option (List Char) := none
  deriving DecidableEq, Repr

namespace Url

/-! ## Schemes -/

/-- The scheme of plain web servers. -/
def http : List Char := ['h', 't', 't', 'p']

/-- The scheme of web servers behind TLS. -/
def https : List Char := ['h', 't', 't', 'p', 's']

/-- The scheme of files. -/
def file : List Char := ['f', 'i', 'l', 'e']

/-- Special schemes other than `file`, with the port that goes without saying. -/
def knownPorts : List (List Char × Nat) :=
  [(http, 80), (https, 443), (['w', 's'], 80), (['w', 's', 's'], 443), (['f', 't', 'p'], 21)]

/-- The port of a scheme. -/
def defaultPort? (scheme : List Char) : Option Nat := knownPorts.lookup scheme

/-- A scheme whose URLs have a host and a path of segments, and take `\` for `/`. -/
def isSpecialScheme (scheme : List Char) : Bool :=
  scheme == file || (defaultPort? scheme).isSome

/-- Whether a request can go to the URL. -/
def isWeb (u : Url) : Bool := u.scheme == http || u.scheme == https

/-! ## The written form -/

/-- A path; a slash stands before every segment. -/
def Path.write : Path → List Char
  | .opaqueText text => text
  | .segments list => list.flatMap fun segment => '/' :: segment

/-- User name, password and the sign after them, where there is one of the two. -/
def writeUserInfo (username password : List Char) : List Char :=
  if username.isEmpty && password.isEmpty then []
  else username ++ (if password.isEmpty then [] else ':' :: password) ++ ['@']

/-- The port behind its colon. -/
def writePort (u : Url) : List Char :=
  match u.port with
  | some port => ':' :: Text.decimal port
  | none => []

/-- User name and password, host and port. -/
def writeAuthority (u : Url) : List Char :=
  match u.host with
  | none => if u.scheme = file then ['/', '/'] else []
  | some host =>
    ['/', '/'] ++ writeUserInfo u.username u.password ++ host.write ++ u.writePort

/-- The query behind its question mark. -/
def writeQuery (u : Url) : List Char :=
  match u.query with
  | some query => '?' :: query
  | none => []

/-- The fragment behind its hash. -/
def writeFragment (u : Url) : List Char :=
  match u.fragment with
  | some fragment => '#' :: fragment
  | none => []

/-- The whole URL. -/
def write (u : Url) : List Char :=
  u.scheme ++ ':' :: u.writeAuthority ++ u.path.write ++ u.writeQuery ++ u.writeFragment

end Url

end TaskProbe
